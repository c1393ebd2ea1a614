import CodeReview.Json.Basic
import CodeReview.Text.Numeral
set_option autoImplicit false

/-!
Numbers. The grammar admits no leading zero and asks for a digit after a point and after an
exponent mark. An integer within 64 bits keeps its value. Every other number becomes a double:
the leading digits that fit in 64 bits are converted first and then scaled by one power of ten,
so the last bit may differ from the double nearest to the text; a result beyond every double is
unreadable.
-/
namespace CodeReview.Json.Number

structure Lexeme where
  negative : Bool
  whole : List Nat
  fraction : Option (List Nat)
  exponent : Option (Bool × List Nat)
  deriving DecidableEq, Repr

def digit? (c : Char) : Option Nat :=
  Text.Numeral.digit? 10 c

/-- The digits at the start of a text, and what follows them. -/
def digits : List Char → List Nat × List Char
  | [] => ([], [])
  | c :: cs =>
    match digit? c with
    | some d => let p := digits cs; (d :: p.1, p.2)
    | none => ([], c :: cs)

def fraction? : List Char → Option (Option (List Nat) × List Char)
  | '.' :: cs =>
    match digits cs with
    | ([], _) => none
    | (ds, rest) => some (some ds, rest)
  | cs => some (none, cs)

/-- The sign of an exponent, true when it is negative, and its digits. -/
def exponentDigits (cs : List Char) : Option (Option (Bool × List Nat) × List Char) :=
  let (negative, cs) := match cs with
    | '+' :: cs => (false, cs)
    | '-' :: cs => (true, cs)
    | cs => (false, cs)
  match digits cs with
  | ([], _) => none
  | (ds, rest) => some (some (negative, ds), rest)

def exponent? : List Char → Option (Option (Bool × List Nat) × List Char)
  | 'e' :: cs => exponentDigits cs
  | 'E' :: cs => exponentDigits cs
  | cs => some (none, cs)

def unsigned? (negative : Bool) (cs : List Char) : Option (Lexeme × List Char) :=
  match digits cs with
  | ([], _) => none
  | (0 :: _ :: _, _) => none
  | (whole, cs) =>
    match fraction? cs with
    | none => none
    | some (fraction, cs) =>
      match exponent? cs with
      | none => none
      | some (exponent, cs) => some (⟨negative, whole, fraction, exponent⟩, cs)

def lexeme? : List Char → Option (Lexeme × List Char)
  | '-' :: cs => unsigned? true cs
  | cs => unsigned? false cs

def value (ds : List Nat) : Nat :=
  ds.foldl (fun v d => 10 * v + d) 0

/-- The value of the leading digits that fit in 64 bits after a value so far, how many digits
were taken, and how many were left. -/
def significand : Nat → List Nat → Nat × Nat × Nat
  | v, [] => (v, 0, 0)
  | v, d :: ds =>
    if 10 * v + d < UInt64.size then
      let (v, taken, left) := significand (10 * v + d) ds
      (v, taken + 1, left)
    else (v, 0, ds.length + 1)

/-- Multiplies a double by a power of ten, in steps of at most 308. -/
def scale : Nat → Float → Int → Option Float
  | 0, f, _ => some f
  | steps + 1, f, e =>
    if e.natAbs ≤ 308 then
      let p := Float.ofScientific 1 false e.natAbs
      if 0 ≤ e then
        let r := f * p
        if r.isInf then none else some r
      else some (f / p)
    else if f == 0.0 then some f
    else if 0 ≤ e then none
    else scale steps (f / 1e308) (e + 308)

/-- The double of a number that is no integer of 64 bits. -/
def Lexeme.double? (n : Lexeme) : Option Float :=
  let (whole, _, left) := significand 0 n.whole
  let (all, taken, _) := significand whole (n.fraction.getD [])
  let power : Int := match n.exponent with
    | none => 0
    | some (true, ds) => -(Int.ofNat (value ds))
    | some (false, ds) => Int.ofNat (value ds)
  (scale 4 (UInt64.ofNat all).toFloat (Int.ofNat left - Int.ofNat taken + power)).map fun f =>
    if n.negative then -f else f

def Lexeme.toJson (n : Lexeme) : Json :=
  let v := value n.whole
  let double := match n.double? with
    | some f => .float f.toBits
    | none => .unreadable
  if n.fraction.isSome || n.exponent.isSome then double
  else if n.negative then
    if v ≠ 0 ∧ v ≤ 1 <<< 63 then .int (-(Int.ofNat v)) else double
  else if v < UInt64.size then .int (Int.ofNat v)
  else double

def read (cs : List Char) : Option (Json × List Char) :=
  (lexeme? cs).map fun p => (p.1.toJson, p.2)

def writeInt (i : Int) : List Char :=
  if i < 0 then '-' :: Text.Numeral.decimal i.natAbs else Text.Numeral.decimal i.natAbs

end CodeReview.Json.Number
