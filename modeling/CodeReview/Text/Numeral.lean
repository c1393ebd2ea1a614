set_option autoImplicit false

/-!
Numerals. Reading goes digit by digit in a given base under a given greatest value and names
the first thing that is wrong: no digit at all, a character that is no digit, or a value past
the greatest one. A plus sign may stand in front. Writing is in base ten.
-/
namespace CodeReview.Text.Numeral

inductive Failure where
  | empty
  | badDigit
  | tooLarge
  deriving DecidableEq, Repr

def Failure.message : Failure → String
  | .empty => "cannot parse integer from empty string"
  | .badDigit => "invalid digit found in string"
  | .tooLarge => "number too large to fit in target type"

/-- The value of a digit in a base of at most sixteen, letters of either case. -/
def digit? (base : Nat) (c : Char) : Option Nat :=
  let n := c.toNat
  let d :=
    if 48 ≤ n ∧ n ≤ 57 then n - 48
    else if 97 ≤ n ∧ n ≤ 102 then n - 87
    else if 65 ≤ n ∧ n ≤ 70 then n - 55
    else base
  if d < base then some d else none

/-- Reads the remaining digits after the value so far. A character that is no digit is reported
before the size of the value it would make. -/
def digits (base greatest : Nat) : Nat → List Char → Except Failure Nat
  | value, [] => .ok value
  | value, c :: cs =>
    match digit? base c with
    | none => .error .badDigit
    | some d =>
      if greatest < value * base + d then .error .tooLarge
      else digits base greatest (value * base + d) cs

def read (base greatest : Nat) : List Char → Except Failure Nat
  | [] => .error .empty
  | ['+'] => .error .badDigit
  | '+' :: cs => digits base greatest 0 cs
  | cs => digits base greatest 0 cs

def decimal (n : Nat) : List Char :=
  Nat.toDigits 10 n

def hexadecimal (n : Nat) : List Char :=
  Nat.toDigits 16 n

def decimalText (n : Nat) : String :=
  String.ofList (decimal n)

def uint16? (s : String) : Except Failure UInt16 :=
  (read 10 (UInt16.size - 1) s.toList).map UInt16.ofNat

def uint32? (s : String) : Except Failure UInt32 :=
  (read 10 (UInt32.size - 1) s.toList).map UInt32.ofNat

def uint64? (s : String) : Except Failure UInt64 :=
  (read 10 (UInt64.size - 1) s.toList).map UInt64.ofNat

end CodeReview.Text.Numeral
