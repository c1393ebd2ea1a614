set_option autoImplicit false

/-!
UTF-8. Decoding takes one byte at a time and never fails: the longest start of a character that
is not continued as the encoding asks counts as one broken piece, and decoding goes on with the
byte that broke it. A text is valid when it has no broken piece; a lenient reader puts the
replacement character in the place of each.
-/
namespace CodeReview.Text.Utf8

def encode (cs : List Char) : List UInt8 :=
  cs.flatMap String.utf8EncodeChar

def bytes (s : String) : List UInt8 :=
  encode s.toList

/-- A character under way: the bits so far, how many bytes follow the next one, and the least
and greatest value the next one may have. -/
structure Pending where
  bits : Nat
  after : Nat
  low : Nat
  high : Nat
  deriving DecidableEq, Repr

inductive Start where
  | char (c : Char)
  | more (p : Pending)
  | broken
  deriving DecidableEq, Repr

/-- What the first byte of a character says. -/
def start (b : UInt8) : Start :=
  let n := b.toNat
  if n < 0x80 then .char (Char.ofNat n)
  else if n < 0xc2 then .broken
  else if n < 0xe0 then .more ⟨n - 0xc0, 0, 0x80, 0xbf⟩
  else if n = 0xe0 then .more ⟨0, 1, 0xa0, 0xbf⟩
  else if n = 0xed then .more ⟨0xd, 1, 0x80, 0x9f⟩
  else if n < 0xf0 then .more ⟨n - 0xe0, 1, 0x80, 0xbf⟩
  else if n = 0xf0 then .more ⟨0, 2, 0x90, 0xbf⟩
  else if n < 0xf4 then .more ⟨n - 0xf0, 2, 0x80, 0xbf⟩
  else if n = 0xf4 then .more ⟨4, 2, 0x80, 0x8f⟩
  else .broken

/-- The characters of a byte sequence, `none` for each broken piece. -/
def pieces : Option Pending → List UInt8 → List (Option Char)
  | none, [] => []
  | some _, [] => [none]
  | none, b :: bs =>
    match start b with
    | .char c => some c :: pieces none bs
    | .more p => pieces (some p) bs
    | .broken => none :: pieces none bs
  | some p, b :: bs =>
    if p.low ≤ b.toNat ∧ b.toNat ≤ p.high then
      match p.after with
      | 0 => some (Char.ofNat (64 * p.bits + (b.toNat - 0x80))) :: pieces none bs
      | k + 1 => pieces (some ⟨64 * p.bits + (b.toNat - 0x80), k, 0x80, 0xbf⟩) bs
    else
      none :: match start b with
        | .char c => some c :: pieces none bs
        | .more q => pieces (some q) bs
        | .broken => none :: pieces none bs

def decode? (bs : List UInt8) : Option (List Char) :=
  (pieces none bs).mapM id

/-- The text of any byte sequence, each broken piece replaced. -/
def decodeLenient (bs : List UInt8) : List Char :=
  (pieces none bs).map fun p => p.getD '\ufffd'

end CodeReview.Text.Utf8
