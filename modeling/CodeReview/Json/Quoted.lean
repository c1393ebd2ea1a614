import CodeReview.Text.Numeral
set_option autoImplicit false

/-!
Quoted text. Writing escapes the quote, the backslash and the control characters, each in its
shortest form, and leaves every other character as it is. Reading takes every escape of the
grammar; characters past the first plane may be written as two escaped surrogates.
-/
namespace CodeReview.Json.Quoted

/-- The four small hexadecimal digits of a number below 65536. -/
def fourDigits (n : Nat) : List Char :=
  [Nat.digitChar (n / 4096 % 16), Nat.digitChar (n / 256 % 16), Nat.digitChar (n / 16 % 16),
    Nat.digitChar (n % 16)]

def escapeChar (c : Char) : List Char :=
  if c = '"' then ['\\', '"']
  else if c = '\\' then ['\\', '\\']
  else if c = '\n' then ['\\', 'n']
  else if c = '\r' then ['\\', 'r']
  else if c = '\t' then ['\\', 't']
  else if c = '\x08' then ['\\', 'b']
  else if c = '\x0c' then ['\\', 'f']
  else if c.toNat < 0x20 then '\\' :: 'u' :: fourDigits c.toNat
  else [c]

def escape : List Char → List Char
  | [] => []
  | c :: cs => escapeChar c ++ escape cs

def encode (s : String) : List Char :=
  '"' :: (escape s.toList ++ ['"'])

/-- What one step of reading yields: a character, or a half of a surrogate pair. -/
inductive Piece where
  | char (c : Char)
  | half (n : Nat)
  deriving DecidableEq, Repr

def Piece.ofUnit (n : Nat) : Piece :=
  if 0xd800 ≤ n ∧ n < 0xe000 then .half n else .char (Char.ofNat n)

def pieces : List Char → Option (List Piece × List Char)
  | [] => none
  | '"' :: rest => some ([], rest)
  | '\\' :: 'u' :: a :: b :: c :: d :: rest =>
    match Text.Numeral.digit? 16 a, Text.Numeral.digit? 16 b, Text.Numeral.digit? 16 c,
        Text.Numeral.digit? 16 d with
    | some a, some b, some c, some d =>
      (pieces rest).map fun p => (Piece.ofUnit (((a * 16 + b) * 16 + c) * 16 + d) :: p.1, p.2)
    | _, _, _, _ => none
  | '\\' :: '"' :: rest => (pieces rest).map fun p => (.char '"' :: p.1, p.2)
  | '\\' :: '\\' :: rest => (pieces rest).map fun p => (.char '\\' :: p.1, p.2)
  | '\\' :: '/' :: rest => (pieces rest).map fun p => (.char '/' :: p.1, p.2)
  | '\\' :: 'b' :: rest => (pieces rest).map fun p => (.char '\x08' :: p.1, p.2)
  | '\\' :: 'f' :: rest => (pieces rest).map fun p => (.char '\x0c' :: p.1, p.2)
  | '\\' :: 'n' :: rest => (pieces rest).map fun p => (.char '\n' :: p.1, p.2)
  | '\\' :: 'r' :: rest => (pieces rest).map fun p => (.char '\r' :: p.1, p.2)
  | '\\' :: 't' :: rest => (pieces rest).map fun p => (.char '\t' :: p.1, p.2)
  | '\\' :: _ => none
  | c :: rest =>
    if c.toNat < 0x20 then none else (pieces rest).map fun p => (.char c :: p.1, p.2)

/-- Joins the surrogate pairs; a half on its own has no text. -/
def assemble : List Piece → Option (List Char)
  | [] => some []
  | .char c :: rest => (assemble rest).map (c :: ·)
  | .half hi :: .half lo :: rest =>
    if hi < 0xdc00 ∧ 0xdc00 ≤ lo then
      (assemble rest).map (Char.ofNat (0x10000 + (hi - 0xd800) * 1024 + (lo - 0xdc00)) :: ·)
    else none
  | .half _ :: _ => none

/-- Reads the rest of a quoted text after its opening quote; the text is absent when it holds
half a surrogate pair. -/
def decode (cs : List Char) : Option (Option String × List Char) :=
  (pieces cs).map fun p => ((assemble p.1).map String.ofList, p.2)

end CodeReview.Json.Quoted
