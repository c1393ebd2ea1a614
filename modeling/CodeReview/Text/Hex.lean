import CodeReview.Text.Numeral
set_option autoImplicit false

/-!
Bytes as pairs of digits in base sixteen. Writing uses small letters; reading takes either case
and refuses an odd number of digits and every other character.
-/
namespace CodeReview.Text.Hex

def digitChar (n : Nat) : Char :=
  Nat.digitChar n

def ofByte (b : UInt8) : List Char :=
  [digitChar (b.toNat / 16), digitChar (b.toNat % 16)]

def encode : List UInt8 → List Char
  | [] => []
  | b :: bs => ofByte b ++ encode bs

def decode : List Char → Option (List UInt8)
  | [] => some []
  | [_] => none
  | h :: l :: cs =>
    match Numeral.digit? 16 h, Numeral.digit? 16 l, decode cs with
    | some a, some b, some bs => some (UInt8.ofNat (16 * a + b) :: bs)
    | _, _, _ => none

theorem length_encode (bs : List UInt8) : (encode bs).length = 2 * bs.length := by
  induction bs with
  | nil => rfl
  | cons b bs ih => simp [encode, ofByte, ih]; omega

theorem length_of_decode {cs : List Char} {bs : List UInt8} (h : decode cs = some bs) :
    cs.length = 2 * bs.length := by
  fun_induction decode cs generalizing bs with
  | case1 => cases h; rfl
  | case2 => exact absurd h (by simp)
  | case3 hc lc cs a b rest ha hb hr ih =>
    cases h
    simp [ih ‹_›]
    omega
  | case4 => exact absurd h (by simp)

end CodeReview.Text.Hex
