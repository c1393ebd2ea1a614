import Mathlib.Logic.Relation
import CodeReview.Proofs.Store.Reachable
import CodeReview.Proofs.Store.Runs
set_option autoImplicit false

/-!
A store that writes lead to keeps a log of its changes, and every later store keeps a log that
goes on from there. So what a pin has once named it names for all time, whatever else is written.
-/
namespace CodeReview

theorem history_append (log more : List Snapshot) (n : ChangeNumber) :
    history (log ++ more) n = history log n ++ history more n :=
  List.filter_append log more

namespace Store
variable {s t : Store} {log : List Snapshot}

/-- The store may come about from the other one by writes of any kind. -/
def Later (s t : Store) : Prop :=
  Relation.ReflTransGen Write s t

theorem Later.reachable (later : s.Later t) (h : s.Reachable) : t.Reachable := by
  induction later with
  | refl => exact h
  | tail _ ht ih => exact ih.write ht

/-- The log is kept where changes are. -/
theorem Keeps.of_changes (hk : s.Keeps log) (same : t.changes = s.changes) : t.Keeps log := by
  cases s with
  | memory m =>
    cases t with
    | memory k =>
      have lists : k.changes = m.changes := Sum.inl.inj same
      exact ⟨lists ▸ hk.distinct, lists ▸ hk.snapshots, lists ▸ hk.complete⟩
    | tables k => cases same
  | tables m =>
    cases t with
    | memory k => cases same
    | tables k =>
      obtain ⟨rows, metas⟩ := Prod.mk.inj (Sum.inr.inj same)
      refine ⟨rows ▸ hk.sorted, rows ▸ hk.rows, fun n => ?_⟩
      rw [TableStore.metasOf, metas]
      exact hk.metas n

/-- A write of a change that succeeds adds one snapshot to the log. -/
theorem Keeps.written (hk : s.Keeps log) {x : ChangeCall} {id : ObjectId}
    (h : x.write s = .ok (id, t)) : ∃ more, t.Keeps (log ++ more) := by
  rcases hk.write_cases x with ⟨e, refused⟩ | ⟨t', written, kept, -⟩
  · rw [refused] at h
    cases h
  · rw [written] at h
    obtain ⟨-, same⟩ := Prod.mk.inj (Except.ok.inj h)
    exact ⟨_, same ▸ kept⟩

theorem Write.keeps (h : s.Write t) (hk : s.Keeps log) : ∃ more, t.Keeps (log ++ more) := by
  have unchanged (same : t.changes = s.changes) : ∃ more, t.Keeps (log ++ more) :=
    ⟨[], (List.append_nil log).symm ▸ hk.of_changes same⟩
  cases h with
  | @insertChange c _ _ h => exact hk.written (x := .insert c) h
  | @updateChange c _ _ h => exact hk.written (x := .update c) h
  | createAccount h => exact unchanged (createAccount_eq_ok h).2.2.2
  | setActive h => exact unchanged (setActive_eq_ok h).2.2.1
  | createGroup h => exact unchanged (createGroup_eq_ok h).2.1
  | updateMembers h => exact unchanged (updateMembers_eq_ok h).2.2.1
  | deleteGroup h => exact unchanged (deleteGroup_eq_ok h).2.1

theorem Reachable.keeps (h : s.Reachable) : ∃ log, s.Keeps log := by
  induction h with
  | memory => exact ⟨[], keeps_empty (.inl rfl)⟩
  | tables => exact ⟨[], keeps_empty (.inr rfl)⟩
  | write _ ht ih =>
    obtain ⟨log, hk⟩ := ih
    obtain ⟨more, kept⟩ := ht.keeps hk
    exact ⟨_, kept⟩

theorem Later.keeps (later : s.Later t) (hk : s.Keeps log) : ∃ more, t.Keeps (log ++ more) := by
  induction later with
  | refl => exact ⟨[], (List.append_nil log).symm ▸ hk⟩
  | tail _ ht ih =>
    obtain ⟨more, kept⟩ := ih
    obtain ⟨last, kept⟩ := ht.keeps kept
    exact ⟨more ++ last, List.append_assoc log more last ▸ kept⟩

/-- A change is missing as a whole or under an id, and every state that is there can be read. -/
theorem Reachable.getChange_error (h : s.Reachable) {n : ChangeNumber} {pin : Option ObjectId}
    {e : StoreError} (failed : s.getChange n pin = .error e) :
    e = .changeNotFound n ∨ ∃ id, pin = some id ∧ e = .missingMeta n id.hex := by
  obtain ⟨log, hk⟩ := h.keeps
  by_cases known : history log n = []
  · rw [hk.getChange_unknown known] at failed
    exact .inl (Except.error.inj failed).symm
  · rw [hk.getChange_known known] at failed
    cases pin with
    | none =>
      obtain ⟨x, last⟩ := exists_last known
      rw [snapshot?, last] at failed
      cases failed
    | some id =>
      split at failed
      · cases failed
      · exact .inr ⟨id, rfl, (Except.error.inj failed).symm⟩

/-- A snapshot in the log is found under its id, the first one that has it. -/
theorem Keeps.getChange_pinned (hk : s.Keeps log) {n : ChangeNumber} {m : ObjectId} {x : Snapshot}
    (found : (history log n).find? (fun y => y.metaId = m) = some x) :
    s.getChange n (some m) = .ok x := by
  have known : history log n ≠ [] := List.ne_nil_of_mem (List.mem_of_find?_eq_some found)
  rw [hk.getChange_known known, snapshot?, found]

/-- What an id in a history names is the same snapshot in all later stores. -/
theorem Reachable.pinned (h : s.Reachable) {n : ChangeNumber} {ids : List ObjectId} {m : ObjectId}
    (recorded : s.metaHistory n = .ok ids) (there : m ∈ ids) :
    ∃ x, ∀ t, s.Later t → t.getChange n (some m) = .ok x ∧ ∃ y, t.getChange n none = .ok y := by
  obtain ⟨log, hk⟩ := h.keeps
  have known : history log n ≠ [] := by
    intro unknown
    rw [hk.metaHistory_unknown unknown] at recorded
    cases recorded
  rw [hk.metaHistory_known known] at recorded
  obtain rfl := Except.ok.inj recorded
  obtain ⟨y, hy, rfl⟩ := List.mem_map.1 there
  obtain ⟨x, found⟩ : ∃ x, (history log n).find? (fun z => z.metaId = y.metaId) = some x :=
    Option.isSome_iff_exists.1 (List.find?_isSome.2 ⟨y, hy, by simp⟩)
  refine ⟨x, fun t later => ?_⟩
  obtain ⟨more, kept⟩ := later.keeps hk
  constructor
  · refine kept.getChange_pinned ?_
    rw [history_append, List.find?_append, found, Option.some_or]
  · have still : history (log ++ more) n ≠ [] := by
      rw [history_append]
      exact List.append_ne_nil_of_left_ne_nil known _
    obtain ⟨z, last⟩ := exists_last still
    exact ⟨z, by rw [kept.getChange_known still, snapshot?, last]⟩

end Store

end CodeReview
