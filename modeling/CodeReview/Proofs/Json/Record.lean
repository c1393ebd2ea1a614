import CodeReview.Proofs.Json.RoundTrip
import CodeReview.Json.Record
set_option autoImplicit false

/-!
Values and records are read back from what is written for them. A written record has every field
once, under its name, so each cell holds what was written there.
-/
namespace CodeReview.Json

theorem filter_name {fields : List (String × Json)} (h : (fields.map Prod.fst).Nodup)
    {f : String × Json} (hf : f ∈ fields) : (fields.filter fun g => g.1 = f.1) = [f] := by
  induction fields with
  | nil => simp at hf
  | cons g gs ih =>
    rw [List.map_cons, List.nodup_cons] at h
    obtain rfl | hg := List.mem_cons.1 hf
    · have others : (gs.filter fun g => g.1 = f.1) = [] := by
        refine List.filter_eq_nil_iff.2 fun g hg => ?_
        have ne : g.1 ≠ f.1 := fun e => h.1 (e ▸ List.mem_map_of_mem hg)
        simpa using ne
      rw [List.filter_cons_of_pos (by simp), others]
    · have ne : g.1 ≠ f.1 := fun e => h.1 (e ▸ List.mem_map_of_mem hg)
      rw [List.filter_cons_of_neg (by simpa using ne)]
      exact ih h.2 hg

theorem onlyField_of_mem {fields : List (String × Json)} (h : (fields.map Prod.fst).Nodup)
    {f : String × Json} (hf : f ∈ fields) : onlyField f.1 fields = some (some f.2) := by
  rw [onlyField, filter_name h hf]

/-- An object with just the fields of a record, none of them repeated, has their values in its
cells. -/
theorem record?_object {names : List String} {fields : List (String × Json)}
    (hn : fields.map Prod.fst = names) (h : names.Nodup) :
    ∃ r, record? names (.object fields) = some r ∧ ∀ f ∈ fields, r.cell f.1 = some f.2 := by
  subst hn
  have cells : ∀ part : List (String × Json), (∀ f ∈ part, f ∈ fields) →
      (part.map Prod.fst).mapM (fun n => (onlyField n fields).map (n, ·)) =
        some (part.map fun f => (f.1, some f.2)) := by
    intro part hp
    induction part with
    | nil => rfl
    | cons f part ih =>
      have head := onlyField_of_mem h (hp f (by simp))
      have tail := ih fun g hg => hp g (by simp [hg])
      simp [List.mapM_cons, head, tail]
  refine ⟨⟨fields.map fun f => (f.1, some f.2), false⟩, ?_, ?_⟩
  · rw [record?, cells fields fun _ hf => hf]
    rfl
  · intro f hf
    have found : (fields.find? fun g => g.1 = f.1) = some f := by
      rw [← List.head?_filter, filter_name h hf, List.head?_cons]
    have here : ((fields.map fun g => (g.1, some g.2)).find? fun c => c.1 = f.1) =
        some (f.1, some f.2) := by
      rw [List.find?_map]
      exact congrArg (Option.map _) found
    rw [Record.cell, here]
    rfl

namespace Record
variable {α : Type} {r : Record} {name : String} {read : Json → Option α} {j : Json} {a : α}

theorem required_of_cell (h : r.cell name = some j) (ha : read j = some a) :
    r.required name read = some a := by
  rw [required, h, Option.bind_some, ha]

theorem withDefault_of_cell (default : α) (h : r.cell name = some j) (ha : read j = some a) :
    r.withDefault name read default = some a := by
  rw [withDefault, h]
  exact ha

end Record

theorem bind_record {β : Type} {names : List String} {fields : List (String × Json)}
    {next : Record → Option β} {b : β} (hn : fields.map Prod.fst = names) (h : names.Nodup)
    (go : ∀ r, (∀ f ∈ fields, r.cell f.1 = some f.2) → next r = some b) :
    (record? names (.object fields) >>= next) = some b := by
  obtain ⟨r, hr, cells⟩ := record?_object hn h
  rw [hr, Option.bind_eq_bind, Option.bind_some]
  exact go r cells

theorem list?_map {α : Type} {read : Json → Option α} {write : α → Json} (xs : List α)
    (h : ∀ x, read (write x) = some x) : list? read (.array (xs.map write)) = some xs := by
  rw [list?]
  induction xs with
  | nil => rfl
  | cons x xs ih => simp [List.mapM_cons, h, ih]

theorem plainItems_map {α : Type} {write : α → Json} (xs : List α)
    (h : ∀ x, (write x).plain = true) : plainItems (xs.map write) = true := by
  induction xs with
  | nil => rfl
  | cons x xs ih => simp [plainItems, h, ih]

theorem option?_ofOption {α : Type} {read : Json → Option α} {write : α → Json} (o : Option α)
    (h : ∀ a, read (write a) = some a) (hn : ∀ a, write a ≠ .null) :
    option? read (ofOption write o) = some o := by
  cases o with
  | none => rfl
  | some a =>
    rw [ofOption, option?]
    · rw [h, Option.map_some]
    · exact hn a

theorem plain_ofOption {α : Type} {write : α → Json} (o : Option α)
    (h : ∀ a, (write a).plain = true) : (ofOption write o).plain = true := by
  cases o with
  | none => rfl
  | some a => exact h a

theorem text?_text (s : String) : text? (.text s) = some s := rfl

theorem bool?_bool (b : Bool) : bool? (.bool b) = some b := rfl

theorem option?_ofText (o : Option String) : option? text? (ofOption .text o) = some o :=
  option?_ofOption o text?_text (by simp)

theorem plain_ofText (o : Option String) : (ofOption .text o).plain = true :=
  plain_ofOption o fun _ => rfl

@[simp] theorem uint32?_ofUInt32 (n : UInt32) : uint32? (ofUInt32 n) = some n := by
  simp only [uint32?, ofUInt32]
  show (if n.toNat < UInt32.size then _ else _) = _
  rw [if_pos n.toNat_lt, UInt32.ofNat_toNat]

@[simp] theorem int16?_ofInt16 (i : Int16) : int16? (ofInt16 i) = some i := by
  rw [ofInt16, int16?, if_pos ⟨i.minValue_le_toInt, i.toInt_le⟩, Int16.ofInt_toInt]

@[simp] theorem int64?_ofInt64 (i : Int64) : int64? (ofInt64 i) = some i := by
  rw [ofInt64, int64?, if_pos ⟨i.minValue_le_toInt, i.toInt_le⟩, Int64.ofInt_toInt]

@[simp] theorem plain_ofUInt32 (n : UInt32) : (ofUInt32 n).plain = true := by
  have := n.toNat_lt
  simp only [ofUInt32, plain, decide_eq_true_eq, Number.fits_iff]
  omega

@[simp] theorem plain_ofInt16 (i : Int16) : (ofInt16 i).plain = true := by
  have low := i.le_toInt
  have high := i.toInt_lt
  simp only [ofInt16, plain, decide_eq_true_eq, Number.fits_iff]
  omega

@[simp] theorem plain_ofInt64 (i : Int64) : (ofInt64 i).plain = true := by
  have low := i.le_toInt
  have high := i.toInt_lt
  simp only [ofInt64, plain, decide_eq_true_eq, Number.fits_iff]
  omega

end CodeReview.Json
