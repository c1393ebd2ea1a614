import CodeReview.Identifier
set_option autoImplicit false

/-!
Sets of accounts, kept as the list of their ids in ascending order. Two sets with the same
members are equal.
-/
namespace CodeReview

def AccountId.Less (a b : AccountId) : Prop :=
  a.number < b.number

instance (a b : AccountId) : Decidable (a.Less b) :=
  inferInstanceAs (Decidable (a.number < b.number))

structure AccountSet where
  ids : List AccountId
  sorted : ids.Pairwise AccountId.Less
  deriving DecidableEq, Repr

namespace AccountSet

def empty : AccountSet :=
  ⟨[], .nil⟩

def insertSorted (a : AccountId) : List AccountId → List AccountId
  | [] => [a]
  | b :: bs =>
    if a.Less b then a :: b :: bs
    else if a = b then b :: bs
    else b :: insertSorted a bs

theorem mem_insertSorted {a x : AccountId} {l : List AccountId} :
    x ∈ insertSorted a l ↔ x = a ∨ x ∈ l := by
  induction l with
  | nil => simp [insertSorted]
  | cons b bs ih =>
    simp only [insertSorted]
    split
    · simp
    · split
      · next e => subst e; simp
      · simp [ih]; grind

theorem less_of_not {a b : AccountId} (h : ¬a.Less b) (e : a ≠ b) : b.Less a := by
  have hn : a.number ≠ b.number := fun h => e (by cases a; cases b; simpa using h)
  simp only [AccountId.Less, UInt32.lt_iff_toNat_lt] at h ⊢
  have : a.number.toNat ≠ b.number.toNat := fun h => hn (UInt32.toNat_inj.mp h)
  omega

theorem less_trans {a b c : AccountId} (h : a.Less b) (k : b.Less c) : a.Less c := by
  simp only [AccountId.Less, UInt32.lt_iff_toNat_lt] at *
  omega

theorem sorted_insertSorted {a : AccountId} {l : List AccountId} (h : l.Pairwise AccountId.Less) :
    (insertSorted a l).Pairwise AccountId.Less := by
  induction l with
  | nil => simp [insertSorted]
  | cons b bs ih =>
    have hb := List.pairwise_cons.1 h
    simp only [insertSorted]
    split
    · next l =>
      refine List.pairwise_cons.2 ⟨fun x hx => ?_, h⟩
      rcases List.mem_cons.1 hx with rfl | hx
      · exact l
      · exact less_trans l (hb.1 x hx)
    · split
      · exact h
      · next n e =>
        refine List.pairwise_cons.2 ⟨fun x hx => ?_, ih hb.2⟩
        rcases mem_insertSorted.1 hx with rfl | hx
        · exact less_of_not n e
        · exact hb.1 x hx

def insert (s : AccountSet) (a : AccountId) : AccountSet :=
  ⟨insertSorted a s.ids, sorted_insertSorted s.sorted⟩

def insertAll (s : AccountSet) (ids : List AccountId) : AccountSet :=
  ids.foldl insert s

def ofList (ids : List AccountId) : AccountSet :=
  empty.insertAll ids

def contains (s : AccountSet) (a : AccountId) : Bool :=
  decide (a ∈ s.ids)

instance : Membership AccountId AccountSet :=
  ⟨fun s a => a ∈ s.ids⟩

def removeAll (s : AccountSet) (ids : List AccountId) : AccountSet :=
  ⟨s.ids.filter (!ids.contains ·), s.sorted.filter _⟩

theorem mem_def {s : AccountSet} {a : AccountId} : a ∈ s ↔ a ∈ s.ids := Iff.rfl

theorem contains_iff {s : AccountSet} {a : AccountId} : s.contains a = true ↔ a ∈ s := by
  simp [contains, mem_def]

theorem not_mem_empty (a : AccountId) : a ∉ empty := by
  simp [mem_def, empty]

theorem mem_insert {s : AccountSet} {a x : AccountId} : x ∈ s.insert a ↔ x = a ∨ x ∈ s :=
  mem_insertSorted

theorem mem_insertAll {s : AccountSet} {ids : List AccountId} {x : AccountId} :
    x ∈ s.insertAll ids ↔ x ∈ ids ∨ x ∈ s := by
  induction ids generalizing s with
  | nil => simp [insertAll]
  | cons a as ih =>
    have : s.insertAll (a :: as) = (s.insert a).insertAll as := rfl
    rw [this, ih, mem_insert, List.mem_cons]
    grind

theorem nodup (s : AccountSet) : s.ids.Nodup := by
  refine s.sorted.imp ?_
  rintro a b hab rfl
  exact UInt32.lt_irrefl a.number hab

/-- Sets with the same members are equal. -/
theorem ext {s t : AccountSet} (h : ∀ a, a ∈ s ↔ a ∈ t) : s = t := by
  have asymm : ∀ a b : AccountId, a ∈ s.ids → b ∈ t.ids → a.Less b → b.Less a → a = b :=
    fun a b _ _ hab hba => absurd (less_trans hab hba) (UInt32.lt_irrefl a.number)
  have perm := (List.perm_ext_iff_of_nodup s.nodup t.nodup).2 h
  have ids := perm.eq_of_pairwise asymm s.sorted t.sorted
  cases s
  cases t
  cases ids
  rfl

theorem mem_ofList {ids : List AccountId} {x : AccountId} : x ∈ ofList ids ↔ x ∈ ids := by
  rw [ofList, mem_insertAll]
  exact ⟨fun h => h.resolve_right (not_mem_empty x), .inl⟩

def toJson (s : AccountSet) : Json :=
  .array (s.ids.map AccountId.toJson)

def ofJson? (j : Json) : Option AccountSet :=
  (j.list? AccountId.ofJson?).map ofList

end AccountSet

end CodeReview
