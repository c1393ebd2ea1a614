import Mathlib.Data.List.Induction
import CodeReview.Proofs.Json.Record
set_option autoImplicit false

/-!
What sorting the fields of a value keeps. A plain value stays plain, so that its text can be read
when it is printed with sorted fields, and a value whose objects are in order already stays as it
is.
-/
namespace CodeReview.Json

theorem plainItems_iff {xs : List Json} : plainItems xs = true ↔ ∀ x ∈ xs, x.plain = true := by
  induction xs with
  | nil => simp [plainItems]
  | cons x xs ih => simp [plainItems, ih]

theorem plainFields_iff {fs : List (String × Json)} :
    plainFields fs = true ↔ ∀ f ∈ fs, f.2.plain = true := by
  induction fs with
  | nil => simp [plainFields]
  | cons f fs ih => simp [plainFields, ih]

@[simp] theorem plainFields_append {fs gs : List (String × Json)} :
    plainFields (fs ++ gs) = (plainFields fs && plainFields gs) := by
  rw [Bool.eq_iff_iff, Bool.and_eq_true, plainFields_iff, plainFields_iff, plainFields_iff,
    List.forall_mem_append]

theorem plainFields_optional {α : Type} {name : String} {f : α → Json} {o : Option α}
    (h : ∀ a, (f a).plain = true) : plainFields (optionalField name f o) = true := by
  cases o with
  | none => rfl
  | some a => simp [optionalField, plainFields, h]

theorem mem_setSorted {name : String} {value : Json} {fs : List (String × Json)}
    {f : String × Json} (h : f ∈ setSorted name value fs) : f = (name, value) ∨ f ∈ fs := by
  induction fs with
  | nil => exact .inl (List.mem_singleton.1 h)
  | cons g gs ih =>
    rw [setSorted] at h
    split at h
    · rcases List.mem_cons.1 h with rfl | h
      · exact .inl rfl
      · exact .inr (List.mem_cons_of_mem g h)
    split at h
    · rcases List.mem_cons.1 h with rfl | h
      · exact .inl rfl
      · exact .inr h
    · rcases List.mem_cons.1 h with rfl | h
      · exact .inr List.mem_cons_self
      · exact (ih h).imp_right (List.mem_cons_of_mem g)

theorem mem_sortFields {fs : List (String × Json)} {f : String × Json}
    (h : f ∈ sortFields fs) : f ∈ fs := by
  have fold (gs sorted : List (String × Json))
      (h : f ∈ gs.foldl (fun sorted f => setSorted f.1 f.2 sorted) sorted) :
      f ∈ sorted ∨ f ∈ gs := by
    induction gs generalizing sorted with
    | nil => exact .inl h
    | cons g gs ih =>
      rcases ih _ h with h | h
      · rcases mem_setSorted h with rfl | h
        · exact .inr List.mem_cons_self
        · exact .inl h
      · exact .inr (List.mem_cons_of_mem g h)
  exact (fold fs [] h).resolve_left List.not_mem_nil

mutual

theorem plain_sorted : ∀ {j : Json}, j.plain = true → j.sorted.plain = true
  | .array xs, h => by
    rw [sorted, plain]
    exact plainItems_sorted h
  | .object fs, h => by
    rw [sorted, plain, plainFields_iff]
    exact fun f there => plainFields_iff.1 (plainFields_sorted h) f (mem_sortFields there)
  | .null, _ => rfl
  | .bool _, _ => rfl
  | .int _, h => h
  | .text _, _ => rfl

theorem plainItems_sorted : ∀ {xs : List Json}, plainItems xs = true →
    plainItems (sortedItems xs) = true
  | [], _ => rfl
  | x :: xs, h => by
    simp only [plainItems, Bool.and_eq_true] at h
    simp only [sortedItems, plainItems, Bool.and_eq_true]
    exact ⟨plain_sorted h.1, plainItems_sorted h.2⟩

theorem plainFields_sorted : ∀ {fs : List (String × Json)}, plainFields fs = true →
    plainFields (sortedFields fs) = true
  | [], _ => rfl
  | (k, x) :: fs, h => by
    simp only [plainFields, Bool.and_eq_true] at h
    simp only [sortedFields, plainFields, Bool.and_eq_true]
    exact ⟨plain_sorted h.1, plainFields_sorted h.2⟩

end

mutual

theorem readable_of_plain : ∀ {j : Json}, j.plain = true → j.readable = true
  | .array _, h => readableItems_of_plain h
  | .object _, h => readableFields_of_plain h
  | .null, _ => rfl
  | .bool _, _ => rfl
  | .int _, _ => rfl
  | .text _, _ => rfl

theorem readableItems_of_plain : ∀ {xs : List Json}, plainItems xs = true →
    readableItems xs = true
  | [], _ => rfl
  | x :: xs, h => by
    simp only [plainItems, Bool.and_eq_true] at h
    simp only [readableItems, Bool.and_eq_true]
    exact ⟨readable_of_plain h.1, readableItems_of_plain h.2⟩

theorem readableFields_of_plain : ∀ {fs : List (String × Json)}, plainFields fs = true →
    readableFields fs = true
  | [], _ => rfl
  | (k, x) :: fs, h => by
    simp only [plainFields, Bool.and_eq_true] at h
    simp only [readableFields, Bool.and_eq_true]
    exact ⟨readable_of_plain h.1, readableFields_of_plain h.2⟩

end

theorem setSorted_of_greatest {name : String} {fs : List (String × Json)}
    (greatest : ∀ f ∈ fs, f.1 < name) (value : Json) :
    setSorted name value fs = fs ++ [(name, value)] := by
  induction fs with
  | nil => rfl
  | cons f fs ih =>
    obtain ⟨less, rest⟩ := List.forall_mem_cons.1 greatest
    have other : f.1 ≠ name := String.ne_of_lt less
    have before : ¬name < f.1 := String.lt_asymm less
    rw [setSorted, if_neg other, if_neg before, ih rest, List.cons_append]

theorem sortFields_snoc (fs : List (String × Json)) (f : String × Json) :
    sortFields (fs ++ [f]) = setSorted f.1 f.2 (sortFields fs) := by
  rw [sortFields, List.foldl_append]
  rfl

/-- Fields in the order of their names stay as they are. -/
theorem sortFields_of_ascending {fs : List (String × Json)}
    (ascending : (fs.map Prod.fst).Pairwise (· < ·)) : sortFields fs = fs := by
  induction fs using List.reverseRecOn with
  | nil => rfl
  | append_singleton fs f ih =>
    rw [List.map_append, List.pairwise_append] at ascending
    obtain ⟨earlier, -, later⟩ := ascending
    have greatest : ∀ g ∈ fs, g.1 < f.1 := fun g there =>
      later g.1 (List.mem_map_of_mem there) f.1 List.mem_cons_self
    rw [sortFields_snoc, ih earlier, setSorted_of_greatest greatest]

theorem ascending_setSorted {fs : List (String × Json)}
    (ascending : (fs.map Prod.fst).Pairwise (· < ·)) (name : String) (value : Json) :
    ((setSorted name value fs).map Prod.fst).Pairwise (· < ·) := by
  induction fs with
  | nil => exact List.pairwise_singleton ..
  | cons f fs ih =>
    obtain ⟨first, rest⟩ := List.pairwise_cons.1 ascending
    rw [setSorted]
    split
    · next same =>
      cases same
      exact ascending
    split
    · next less =>
      refine List.pairwise_cons.2 ⟨fun other there => ?_, ascending⟩
      obtain rfl | later := List.mem_cons.1 there
      · exact less
      · exact String.lt_trans less (first other later)
    · next other before =>
      refine List.pairwise_cons.2 ⟨fun later there => ?_, ih rest⟩
      obtain ⟨g, kept, rfl⟩ := List.mem_map.1 there
      obtain rfl | old := mem_setSorted kept
      · exact Std.lt_of_le_of_ne (String.not_lt.1 before) other
      · exact first g.1 (List.mem_map_of_mem old)

/-- Sorting leaves no name twice. -/
theorem ascending_sortFields (fs : List (String × Json)) :
    ((sortFields fs).map Prod.fst).Pairwise (· < ·) := by
  induction fs using List.reverseRecOn with
  | nil => exact .nil
  | append_singleton fs f ih =>
    rw [sortFields_snoc]
    exact ascending_setSorted ih f.1 f.2

theorem nodup_of_ascending {names : List String} (h : names.Pairwise (· < ·)) : names.Nodup :=
  h.imp String.ne_of_lt

mutual

/-- The names in every object are ascending, so none is repeated. -/
def Ordered : Json → Prop
  | .array items => OrderedItems items
  | .object fields => (fields.map Prod.fst).Pairwise (· < ·) ∧ OrderedFields fields
  | _ => True

def OrderedItems : List Json → Prop
  | [] => True
  | x :: xs => Ordered x ∧ OrderedItems xs

def OrderedFields : List (String × Json) → Prop
  | [] => True
  | (_, x) :: xs => Ordered x ∧ OrderedFields xs

end

theorem map_fst_sortedFields (fs : List (String × Json)) :
    (sortedFields fs).map Prod.fst = fs.map Prod.fst := by
  induction fs with
  | nil => rfl
  | cons f fs ih => rw [sortedFields, List.map_cons, List.map_cons, ih]

mutual

theorem sorted_of_ordered : ∀ {j : Json}, j.Ordered → j.sorted = j
  | .array _, h => by
    rw [sorted, sortedItems_of_ordered h]
  | .object _, h => by
    rw [sorted, sortedFields_of_ordered h.2, sortFields_of_ascending h.1]
  | .null, _ => rfl
  | .bool _, _ => rfl
  | .int _, _ => rfl
  | .float _, _ => rfl
  | .text _, _ => rfl
  | .unreadable, _ => rfl

theorem sortedItems_of_ordered : ∀ {xs : List Json}, OrderedItems xs → sortedItems xs = xs
  | [], _ => rfl
  | _ :: _, h => by
    rw [sortedItems, sorted_of_ordered h.1, sortedItems_of_ordered h.2]

theorem sortedFields_of_ordered : ∀ {fs : List (String × Json)}, OrderedFields fs →
    sortedFields fs = fs
  | [], _ => rfl
  | _ :: _, h => by
    rw [sortedFields, sorted_of_ordered h.1, sortedFields_of_ordered h.2]

end

end CodeReview.Json
