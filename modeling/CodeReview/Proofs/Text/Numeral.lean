import CodeReview.Proofs.Identifier
import CodeReview.Proofs.Text.Blank
set_option autoImplicit false

/-!
Which texts are read as a number in base ten: its digits, with any zeros before them and perhaps a
plus sign in front of all.
-/
namespace CodeReview.Text.Numeral

/-- The characters are digits of the number, perhaps after a plus sign. -/
def Denotes (cs : List Char) (n : Nat) : Prop :=
  ∃ ds : List Nat, ds ≠ [] ∧ (∀ d ∈ ds, d < 10) ∧ Json.Number.value ds = n ∧
    (cs = ds.map Nat.digitChar ∨ cs = '+' :: ds.map Nat.digitChar)

/-- A text is read as a number exactly when it denotes it and the number is not too great. -/
theorem read_eq_ok_iff {greatest n : Nat} {cs : List Char} :
    read 10 greatest cs = .ok n ↔ Denotes cs n ∧ n ≤ greatest := by
  rw [read_eq_ok_iff_digits (by decide), and_comm]
  refine and_congr_left fun _ => ?_
  constructor
  · rintro ⟨written, ds, some, digits, made, sign⟩
    obtain ⟨small, rfl⟩ := mapM_digit?_ten_iff.1 digits
    exact ⟨ds, fun none => some (List.map_eq_nil_iff.2 none), small, made, sign⟩
  · rintro ⟨ds, some, small, made, sign⟩
    exact ⟨ds.map Nat.digitChar, ds, fun none => some (List.map_eq_nil_iff.1 none),
      mapM_digit?_ten_iff.2 ⟨small, rfl⟩, made, sign⟩

theorem uint32?_eq_ok_iff {s : String} {n : UInt32} :
    uint32? s = .ok n ↔ Denotes s.toList n.toNat := by
  have bound : n.toNat ≤ UInt32.size - 1 := Nat.le_pred_of_lt n.toNat_lt
  rw [uint32?]
  constructor
  · intro h
    cases made : read 10 (UInt32.size - 1) s.toList with
    | error e =>
      rw [made] at h
      cases h
    | ok k =>
      rw [made] at h
      obtain ⟨denotes, whole⟩ := read_eq_ok_iff.1 made
      have small : k < UInt32.size := Nat.lt_of_le_pred (by decide) whole
      obtain rfl : UInt32.ofNat k = n := Except.ok.inj h
      rwa [show (UInt32.ofNat k).toNat = k from UInt32.toNat_ofNat_of_lt small]
  · intro denotes
    rw [read_eq_ok_iff.2 ⟨denotes, bound⟩]
    exact congrArg Except.ok UInt32.ofNat_toNat

/-- A number ends in a digit. -/
theorem Denotes.last_digit {cs : List Char} {n : Nat} (h : Denotes cs n) :
    ∃ d < 10, cs.getLast? = some (Nat.digitChar d) := by
  obtain ⟨ds, some, small, -, written⟩ := h
  obtain ⟨front, d, rfl⟩ := List.eq_nil_or_concat ds |>.resolve_left some
  refine ⟨d, small d (by simp), ?_⟩
  rcases written with rfl | rfl <;> simp [List.getLast?_cons]

end CodeReview.Text.Numeral

namespace CodeReview
open Text.Numeral

theorem AccountId.parse?_eq_some_iff {s : String} {n : UInt32} :
    parse? s = some ⟨n⟩ ↔ Denotes s.toList n.toNat := by
  rw [← uint32?_eq_ok_iff, parse?]
  cases uint32? s <;> simp [Except.toOption]

theorem AccountId.trim_text (id : AccountId) : Text.trim id.text = id.text := by
  have blank : ∀ d < 10, Text.isBlank (Nat.digitChar d) = false := by decide
  refine Text.trim_of_not_blank fun c there => ?_
  obtain ⟨d, small, rfl⟩ := mem_decimalText there
  exact blank d small

theorem ChangeNumber.parse?_eq_some_iff {s : String} {n : UInt32} :
    parse? s = some ⟨n⟩ ↔ Denotes s.toList n.toNat := by
  rw [← uint32?_eq_ok_iff, parse?]
  cases uint32? s <;> simp [Except.toOption]

theorem GroupNumber.parse?_eq_some_iff {s : String} {n : UInt32} :
    parse? s = some ⟨n⟩ ↔ Denotes s.toList n.toNat := by
  rw [← uint32?_eq_ok_iff, parse?]
  cases uint32? s <;> simp [Except.toOption]

end CodeReview
