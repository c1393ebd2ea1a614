import CodeReview.Proofs.Text.Utf8
import Mathlib.Data.Char
import Mathlib.Data.List.Lex
set_option autoImplicit false

/-!
Texts have the order of their bytes. The first byte of a character tells how many there are and is
greater where there are more; of two characters with equally many bytes the one with the greater
code has the greater byte where they first differ.
-/
namespace CodeReview.Text.Utf8

theorem cons_lt_cons {n m : Nat} (small : n < 256) (large : m < 256) {as bs : List UInt8}
    (h : n < m ∨ n = m ∧ as < bs) : UInt8.ofNat n :: as < UInt8.ofNat m :: bs := by
  rw [List.cons_lt_cons_iff, UInt8.lt_iff_toNat_lt, toNat_ofNat small, toNat_ofNat large]
  exact h.imp_right fun ⟨same, rest⟩ => ⟨same ▸ rfl, rest⟩

/-- Of two numbers the greater one has the greater bits before the last six, or the same there and
greater ones in the last six. -/
theorem bits_lt {n m : Nat} (h : n < m) :
    n / 64 < m / 64 ∨ n / 64 = m / 64 ∧ n % 64 < m % 64 := by
  omega

section
variable {n m : Nat} (h : n < m) (as bs : List UInt8)
include h

theorem two_lt_two (two : m ≤ 0x7ff) :
    [UInt8.ofNat (n / 64 % 0x20 + 0xc0), UInt8.ofNat (n % 0x40 + 0x80)] ++ as <
      [UInt8.ofNat (m / 64 % 0x20 + 0xc0), UInt8.ofNat (m % 0x40 + 0x80)] ++ bs := by
  refine cons_lt_cons (by omega) (by omega) ?_
  rcases bits_lt h with first | ⟨same, last⟩
  · exact .inl (by omega)
  · exact .inr ⟨by omega, cons_lt_cons (by omega) (by omega) (.inl (by omega))⟩

theorem three_lt_three (three : m ≤ 0xffff) :
    [UInt8.ofNat (n / 4096 % 0x10 + 0xe0), UInt8.ofNat (n / 64 % 0x40 + 0x80),
        UInt8.ofNat (n % 0x40 + 0x80)] ++ as <
      [UInt8.ofNat (m / 4096 % 0x10 + 0xe0), UInt8.ofNat (m / 64 % 0x40 + 0x80),
        UInt8.ofNat (m % 0x40 + 0x80)] ++ bs := by
  refine cons_lt_cons (by omega) (by omega) ?_
  rcases bits_lt h with more | ⟨same, last⟩
  · rcases bits_lt more with first | ⟨same, second⟩
    · exact .inl (by omega)
    · exact .inr ⟨by omega, cons_lt_cons (by omega) (by omega) (.inl (by omega))⟩
  · refine .inr ⟨by omega, cons_lt_cons (by omega) (by omega) (.inr ⟨by omega, ?_⟩)⟩
    exact cons_lt_cons (by omega) (by omega) (.inl (by omega))

theorem four_lt_four (four : m < 0x110000) :
    [UInt8.ofNat (n / 262144 % 0x08 + 0xf0), UInt8.ofNat (n / 4096 % 0x40 + 0x80),
        UInt8.ofNat (n / 64 % 0x40 + 0x80), UInt8.ofNat (n % 0x40 + 0x80)] ++ as <
      [UInt8.ofNat (m / 262144 % 0x08 + 0xf0), UInt8.ofNat (m / 4096 % 0x40 + 0x80),
        UInt8.ofNat (m / 64 % 0x40 + 0x80), UInt8.ofNat (m % 0x40 + 0x80)] ++ bs := by
  refine cons_lt_cons (by omega) (by omega) ?_
  rcases bits_lt h with more | ⟨same, last⟩
  · rcases bits_lt more with more | ⟨same, third⟩
    · rcases bits_lt more with first | ⟨same, second⟩
      · exact .inl (by omega)
      · exact .inr ⟨by omega, cons_lt_cons (by omega) (by omega) (.inl (by omega))⟩
    · refine .inr ⟨by omega, cons_lt_cons (by omega) (by omega) (.inr ⟨by omega, ?_⟩)⟩
      exact cons_lt_cons (by omega) (by omega) (.inl (by omega))
  · refine .inr ⟨by omega, cons_lt_cons (by omega) (by omega) (.inr ⟨by omega, ?_⟩)⟩
    refine cons_lt_cons (by omega) (by omega) (.inr ⟨by omega, ?_⟩)
    exact cons_lt_cons (by omega) (by omega) (.inl (by omega))

end

/-- The character with the smaller code has the smaller bytes, whatever follows. -/
theorem encodeChar_lt {c d : Char} (h : c < d) (as bs : List UInt8) :
    String.utf8EncodeChar c ++ as < String.utf8EncodeChar d ++ bs := by
  have order : c.val.toNat < d.val.toNat := UInt32.lt_iff_toNat_lt.1 h
  have valid : d.val.toNat < 0x110000 := by
    have : d.val.toNat < 0xd800 ∨ 0xdfff < d.val.toNat ∧ d.val.toNat < 0x110000 := d.valid
    omega
  revert order valid
  unfold String.utf8EncodeChar
  generalize c.val.toNat = n
  generalize d.val.toNat = m
  intro order valid
  dsimp only
  by_cases four : 0xffff < m
  · rw [if_neg (show ¬m ≤ 127 by omega), if_neg (show ¬m ≤ 2047 by omega),
      if_neg (show ¬m ≤ 65535 by omega)]
    split
    · exact cons_lt_cons (by omega) (by omega) (.inl (by omega))
    split
    · exact cons_lt_cons (by omega) (by omega) (.inl (by omega))
    split
    · exact cons_lt_cons (by omega) (by omega) (.inl (by omega))
    · exact four_lt_four order as bs valid
  rw [if_pos (show n ≤ 65535 by omega), if_pos (show m ≤ 65535 by omega)]
  by_cases three : 0x7ff < m
  · rw [if_neg (show ¬m ≤ 127 by omega), if_neg (show ¬m ≤ 2047 by omega)]
    split
    · exact cons_lt_cons (by omega) (by omega) (.inl (by omega))
    split
    · exact cons_lt_cons (by omega) (by omega) (.inl (by omega))
    · exact three_lt_three order as bs (by omega)
  rw [if_pos (show n ≤ 2047 by omega), if_pos (show m ≤ 2047 by omega)]
  by_cases two : 0x7f < m
  · rw [if_neg (show ¬m ≤ 127 by omega)]
    split
    · exact cons_lt_cons (by omega) (by omega) (.inl (by omega))
    · exact two_lt_two order as bs (by omega)
  · rw [if_pos (show n ≤ 127 by omega), if_pos (show m ≤ 127 by omega)]
    exact cons_lt_cons (by omega) (by omega) (.inl order)

theorem encode_lt {cs ds : List Char} (h : cs < ds) : encode cs < encode ds := by
  induction h with
  | nil =>
    rw [encode, List.flatMap_nil, encode, List.flatMap_cons]
    have some {c : Char} : String.utf8EncodeChar c ≠ [] := String.utf8EncodeChar_ne_nil
    obtain ⟨b, bs, written⟩ := List.exists_cons_of_ne_nil some
    rw [written]
    exact List.Lex.nil
  | rel first => exact encodeChar_lt first _ _
  | cons rest ih => exact List.append_left_lt ih

theorem encode_lt_iff {cs ds : List Char} : encode cs < encode ds ↔ cs < ds := by
  refine ⟨fun h => ?_, encode_lt⟩
  rcases lt_trichotomy cs ds with before | rfl | after
  · exact before
  · exact absurd h (List.lt_irrefl _)
  · exact absurd h (List.lt_asymm (encode_lt after))

/-- The order of texts is that of their bytes. -/
theorem bytes_lt_iff {a b : String} : bytes a < bytes b ↔ a < b :=
  encode_lt_iff

end CodeReview.Text.Utf8

namespace CodeReview.Text

/-- Of two texts that start with equally many characters the one with the smaller start comes
first, and after the same start the one that goes on with less. -/
theorem append_lt_append_iff {as bs : List Char} (h : as.length = bs.length) {cs ds : List Char} :
    as ++ cs < bs ++ ds ↔ as < bs ∨ as = bs ∧ cs < ds := by
  induction as generalizing bs with
  | nil =>
    obtain rfl := List.length_eq_zero_iff.1 h.symm
    simp
  | cons a as ih =>
    obtain ⟨b, bs, rfl⟩ := List.exists_cons_of_length_eq_add_one h.symm
    rw [List.cons_append, List.cons_append, List.cons_lt_cons_iff, List.cons_lt_cons_iff,
      ih (Nat.succ.inj h), List.cons.injEq, and_or_left, or_assoc, and_assoc]

end CodeReview.Text
