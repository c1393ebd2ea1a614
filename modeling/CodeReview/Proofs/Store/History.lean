import CodeReview.Proofs.Change.RoundTrip
import CodeReview.Proofs.Store.Log
import CodeReview.Proofs.Store.View
set_option autoImplicit false

/-!
Both kinds of store keep the log of their writes. In lists a change is the list of its snapshots.
In tables it is a row with the key and the id of the last snapshot, and a row for each snapshot
with its number, the id before it and the text of its state. What a store answers about changes
can be told from the log alone.
-/
namespace CodeReview

def Ascending (ns : List ChangeNumber) : Prop :=
  ns.Pairwise fun a b => a.number < b.number

theorem mem_insertNumber {n k : ChangeNumber} {ns : List ChangeNumber} :
    k ∈ insertNumber n ns ↔ k = n ∨ k ∈ ns := by
  induction ns with
  | nil => simp [insertNumber]
  | cons m ms ih =>
    rw [insertNumber]
    split
    · simp
    · rw [List.mem_cons, ih, List.mem_cons, or_left_comm]

theorem ascending_insertNumber {n : ChangeNumber} {ns : List ChangeNumber} (h : Ascending ns)
    (fresh : n ∉ ns) : Ascending (insertNumber n ns) := by
  induction ns with
  | nil => simp [insertNumber, Ascending]
  | cons m ms ih =>
    obtain ⟨hm, hms⟩ := List.pairwise_cons.1 h
    rw [List.mem_cons, not_or] at fresh
    have ne : n.number.toNat ≠ m.number.toNat := fun e =>
      fresh.1 (congrArg ChangeNumber.mk (UInt32.toNat_inj.1 e))
    rw [insertNumber]
    split
    · next le =>
      have lt : n.number < m.number := by
        rw [UInt32.le_iff_toNat_le] at le
        rw [UInt32.lt_iff_toNat_lt]
        omega
      refine List.pairwise_cons.2 ⟨fun k hk => ?_, h⟩
      rcases List.mem_cons.1 hk with rfl | hk
      · exact lt
      · exact UInt32.lt_trans lt (hm k hk)
    · next nle =>
      refine List.pairwise_cons.2 ⟨fun k hk => ?_, ih hms fresh.2⟩
      rcases mem_insertNumber.1 hk with rfl | hk
      · exact UInt32.not_le.1 nle
      · exact hm k hk

theorem mem_sortNumbers {k : ChangeNumber} {ns : List ChangeNumber} :
    k ∈ sortNumbers ns ↔ k ∈ ns := by
  induction ns with
  | nil => simp [sortNumbers]
  | cons n ns ih =>
    have step : sortNumbers (n :: ns) = insertNumber n (sortNumbers ns) := rfl
    rw [step, mem_insertNumber, ih, List.mem_cons]

theorem ascending_sortNumbers {ns : List ChangeNumber} (h : ns.Nodup) :
    Ascending (sortNumbers ns) := by
  induction ns with
  | nil => exact .nil
  | cons n ns ih =>
    rw [List.nodup_cons] at h
    have step : sortNumbers (n :: ns) = insertNumber n (sortNumbers ns) := rfl
    rw [step]
    exact ascending_insertNumber (ih h.2) fun hn => h.1 (mem_sortNumbers.1 hn)

theorem eq_of_ascending {ms ns : List ChangeNumber} (hm : Ascending ms) (hn : Ascending ns)
    (h : ∀ k, k ∈ ms ↔ k ∈ ns) : ms = ns := by
  have nodup : ∀ {l : List ChangeNumber}, Ascending l → l.Nodup := by
    intro l hl
    refine List.Pairwise.imp ?_ hl
    rintro a b lt rfl
    exact UInt32.lt_irrefl a.number lt
  have asymm : ∀ a b : ChangeNumber, a ∈ ms → b ∈ ns → a.number < b.number →
      b.number < a.number → a = b :=
    fun a b _ _ hab hba => absurd (UInt32.lt_trans hab hba) (UInt32.lt_irrefl a.number)
  exact ((List.perm_ext_iff_of_nodup (nodup hm) (nodup hn)).2 h).eq_of_pairwise asymm hm hn

/-- What a log says of a change, as it is now or under an id. -/
def snapshot? (h : List Snapshot) : Option ObjectId → Option Snapshot
  | none => h.getLast?
  | some id => h.find? fun x => x.metaId = id

namespace MemoryStore
variable {m : MemoryStore} {log : List Snapshot} {c : Change} {n : ChangeNumber}

/-- Every change has an entry of its own with its snapshots. -/
structure Keeps (m : MemoryStore) (log : List Snapshot) : Prop where
  distinct : m.changes.Pairwise fun a b => a.change ≠ b.change
  snapshots : ∀ h ∈ m.changes, h.snapshots = history log h.change ∧ h.snapshots ≠ []
  complete : ∀ n, history log n ≠ [] → ∃ h ∈ m.changes, h.change = n

theorem keeps_empty : empty.Keeps [] := ⟨.nil, by simp [empty], by simp [history]⟩

namespace Keeps

theorem history?_fresh (hk : m.Keeps log) (hn : history log n = []) : m.history? n = none := by
  rw [history?, List.find?_eq_none]
  intro h hh
  simp only [decide_eq_true_eq]
  rintro rfl
  exact (hk.snapshots h hh).2 ((hk.snapshots h hh).1.trans hn)

theorem history?_known (hk : m.Keeps log) (hn : history log n ≠ []) :
    m.history? n = some ⟨n, history log n⟩ := by
  obtain ⟨h, hh, rfl⟩ := hk.complete n hn
  rw [history?, Store.find?_of_distinct hk.distinct hh, ← (hk.snapshots h hh).1]

theorem insertChange_known (hk : m.Keeps log) (hn : history log c.id ≠ []) :
    m.insertChange c = .error (.duplicateChange c.id) := by
  rw [insertChange, hk.history?_known hn]

theorem insertChange_fresh (hk : m.Keeps log) (hn : history log c.id = []) :
    ∃ t, m.insertChange c = .ok (Snapshot.idOf none c, t) ∧
      t.Keeps (log ++ [⟨Snapshot.idOf none c, c⟩]) := by
  rw [insertChange, hk.history?_fresh hn]
  refine ⟨_, rfl, ?_⟩
  generalize Snapshot.idOf none c = id
  have added : history (log ++ [⟨id, c⟩]) c.id = [⟨id, c⟩] := by
    rw [history_snoc log ⟨id, c⟩, hn, List.nil_append]
  have other : ∀ h ∈ m.changes, h.change ≠ c.id := by
    intro h hh e
    exact (hk.snapshots h hh).2 ((hk.snapshots h hh).1.trans (e ▸ hn))
  constructor
  · rw [List.pairwise_append]
    exact ⟨hk.distinct, List.pairwise_singleton _ _, by simpa using other⟩
  · intro h hh
    rcases (List.mem_append.1 hh).imp_right List.mem_singleton.1 with hh | rfl
    · rw [history_snoc_of_ne (other h hh)]
      exact hk.snapshots h hh
    · exact ⟨added.symm, by simp⟩
  · intro k kn
    by_cases e : k = c.id
    · exact ⟨_, List.mem_append_right _ List.mem_cons_self, e.symm⟩
    · rw [history_snoc_of_ne e] at kn
      obtain ⟨h, hh, rfl⟩ := hk.complete k kn
      exact ⟨h, List.mem_append_left _ hh, rfl⟩

theorem updateChange_fresh (hk : m.Keeps log) (hn : history log c.id = []) :
    m.updateChange c = .error (.changeNotFound c.id) := by
  rw [updateChange, hk.history?_fresh hn]

theorem updateChange_known (hk : m.Keeps log) (hn : history log c.id ≠ []) :
    ∃ t, m.updateChange c = .ok (Snapshot.idOf (lastId none (history log c.id)) c, t) ∧
      t.Keeps (log ++ [⟨Snapshot.idOf (lastId none (history log c.id)) c, c⟩]) := by
  rw [updateChange, hk.history?_known hn, lastId_none]
  refine ⟨_, rfl, ?_⟩
  generalize Snapshot.idOf ((history log c.id).getLast?.map Snapshot.metaId) c = id
  have same : ∀ h : History,
      (if h.change = c.id then { h with snapshots := h.snapshots ++ [⟨id, c⟩] } else h).change =
        h.change := by
    intro h
    split <;> rfl
  constructor
  · rw [List.pairwise_map]
    refine hk.distinct.imp fun {a b} hab => ?_
    rw [same, same]
    exact hab
  · intro g hg
    obtain ⟨h, hh, rfl⟩ := List.mem_map.1 hg
    rw [same]
    split
    · next e =>
      rw [e, history_snoc log ⟨id, c⟩, ← e, ← (hk.snapshots h hh).1]
      exact ⟨rfl, by simp⟩
    · next e =>
      rw [history_snoc_of_ne e]
      exact hk.snapshots h hh
  · intro k kn
    have known : history log k ≠ [] := by
      by_cases e : k = c.id
      · exact e ▸ hn
      · rwa [history_snoc_of_ne e] at kn
    obtain ⟨h, hh, rfl⟩ := hk.complete k known
    exact ⟨_, List.mem_map_of_mem hh, same h⟩

theorem getChange_known (hk : m.Keeps log) (hn : history log n ≠ []) (pin : Option ObjectId) :
    m.getChange n pin = match snapshot? (history log n) pin with
      | some x => .ok x
      | none => .error (.missingMeta n ((pin.map ObjectId.hex).getD "")) := by
  rw [getChange, hk.history?_known hn]
  cases pin <;> rfl

theorem mem_findByKey (hk : m.Keeps log) {key : String} :
    n ∈ m.findByKey key ↔ ∃ x, (history log n).getLast? = some x ∧ x.state.key = key := by
  rw [findByKey, mem_sortNumbers, List.mem_map]
  constructor
  · intro found
    obtain ⟨h, hh, rfl⟩ := found
    obtain ⟨hh, named⟩ := List.mem_filter.1 hh
    obtain ⟨x, hx, hxk⟩ := (Option.any_eq_true _ _).1 named
    exact ⟨x, (hk.snapshots h hh).1 ▸ hx, by simpa using hxk⟩
  · intro found
    obtain ⟨x, hx, rfl⟩ := found
    have known : history log n ≠ [] := by
      intro e
      simp [e] at hx
    obtain ⟨h, hh, rfl⟩ := hk.complete n known
    refine ⟨h, List.mem_filter.2 ⟨hh, ?_⟩, rfl⟩
    rw [(hk.snapshots h hh).1, hx]
    simp

theorem ascending_findByKey (hk : m.Keeps log) (key : String) : Ascending (m.findByKey key) := by
  refine ascending_sortNumbers ?_
  rw [List.Nodup, List.pairwise_map]
  exact hk.distinct.filter _

end Keeps

end MemoryStore

namespace TableStore
variable {t : TableStore} {log : List Snapshot} {c : Change} {n : ChangeNumber}

/-- The rows of a chain, numbered on. -/
def metaRows (n : ChangeNumber) (first : Nat) (parent : Option ObjectId) :
    List Snapshot → List MetaRow
  | [] => []
  | x :: xs => ⟨x.metaId, n, first, parent, Snapshot.stateText x.state⟩ ::
      metaRows n (first + 1) (some x.metaId) xs

section
variable {first : Nat} {parent : Option ObjectId} {h : List Snapshot}

theorem metaRows_snoc (x : Snapshot) :
    metaRows n first parent (h ++ [x]) = metaRows n first parent h ++
      [⟨x.metaId, n, first + h.length, lastId parent h, Snapshot.stateText x.state⟩] := by
  induction h generalizing first parent with
  | nil => rfl
  | cons y ys ih =>
    rw [List.cons_append, metaRows, ih, metaRows, lastId, List.length_cons, List.cons_append,
      Nat.add_right_comm, Nat.add_assoc first]

theorem map_id_metaRows : (metaRows n first parent h).map MetaRow.id = h.map Snapshot.metaId := by
  induction h generalizing first parent with
  | nil => rfl
  | cons x xs ih => rw [metaRows, List.map_cons, ih, List.map_cons]

/-- The newest row is the last one. -/
theorem newest_metaRows (x : Snapshot) :
    newest (metaRows n first parent (h ++ [x])) =
      some ⟨x.metaId, n, first + h.length, lastId parent h, Snapshot.stateText x.state⟩ := by
  induction h generalizing first parent with
  | nil => rfl
  | cons y ys ih =>
    rw [List.cons_append, metaRows, newest, ih, lastId, List.length_cons]
    dsimp only
    rw [if_pos (by omega), Nat.add_right_comm, Nat.add_assoc first]

theorem sorted_metaRows :
    (metaRows n first parent h).foldr insertMetaRow [] = metaRows n first parent h := by
  induction h generalizing first parent with
  | nil => rfl
  | cons x xs ih =>
    rw [metaRows, List.foldr_cons, ih]
    cases xs with
    | nil => rfl
    | cons y ys => rw [metaRows, insertMetaRow, if_pos (Nat.le_succ first)]

theorem readMeta_eq {r : MetaRow} {x : Snapshot} (hi : r.id = x.metaId)
    (hs : r.state = Snapshot.stateText x.state) : readMeta r = .ok x := by
  rw [readMeta, hs, Change.read_stateText, hi]

theorem find?_metaRows (id : ObjectId) :
    ((metaRows n first parent h).find? fun r => r.id = id).map readMeta =
      (h.find? fun x => x.metaId = id).map .ok := by
  induction h generalizing first parent with
  | nil => rfl
  | cons x xs ih =>
    rw [metaRows]
    by_cases e : x.metaId = id
    · rw [List.find?_cons_of_pos (by simpa using e), List.find?_cons_of_pos (by simpa using e),
        Option.map_some, Option.map_some, readMeta_eq rfl rfl]
    · rw [List.find?_cons_of_neg (by simpa using e), List.find?_cons_of_neg (by simpa using e)]
      exact ih

end

theorem mem_insertChangeRow {r q : ChangeRow} {l : List ChangeRow} :
    q ∈ insertChangeRow r l ↔ q = r ∨ q ∈ l := by
  induction l with
  | nil => simp [insertChangeRow]
  | cons p ps ih =>
    rw [insertChangeRow]
    split
    · simp
    · rw [List.mem_cons, ih, List.mem_cons, or_left_comm]

theorem map_id_insertChangeRow (r : ChangeRow) (l : List ChangeRow) :
    (insertChangeRow r l).map ChangeRow.id = insertNumber r.id (l.map ChangeRow.id) := by
  induction l with
  | nil => rfl
  | cons p ps ih =>
    rw [insertChangeRow, List.map_cons, insertNumber]
    split
    · rfl
    · rw [List.map_cons, ih]

/-- Every change has one row for its last state and a row for each of its snapshots. -/
structure Keeps (t : TableStore) (log : List Snapshot) : Prop where
  sorted : Ascending (t.changes.map ChangeRow.id)
  rows : ∀ r, r ∈ t.changes ↔
    ∃ x, (history log r.id).getLast? = some x ∧ r.key = x.state.key ∧ r.current = x.metaId
  metas : ∀ n, t.metasOf n = metaRows n 0 none (history log n)

theorem keeps_empty : empty.Keeps [] :=
  ⟨.nil, by simp [empty, history], fun _ => rfl⟩

theorem metasOf_snoc (t : TableStore) (changes : List ChangeRow) (r : MetaRow) (n : ChangeNumber) :
    metasOf { t with changes := changes, metas := t.metas ++ [r] } n =
      t.metasOf n ++ if r.change = n then [r] else [] := by
  by_cases e : r.change = n <;> simp [metasOf, e]

namespace Keeps

theorem changeExists_iff (hk : t.Keeps log) : t.changeExists n = true ↔ history log n ≠ [] := by
  simp only [changeExists, List.any_eq_true, decide_eq_true_eq]
  constructor
  · rintro ⟨r, hr, rfl⟩ hn
    obtain ⟨x, hx, -⟩ := (hk.rows r).1 hr
    simp [hn] at hx
  · intro hn
    obtain ⟨x, hx⟩ := exists_last hn
    exact ⟨⟨n, x.state.key, x.metaId⟩, (hk.rows _).2 ⟨x, hx, rfl, rfl⟩, rfl⟩

theorem head?_fresh (hk : t.Keeps log) (hn : history log n = []) : t.head? n = none := by
  rw [head?, hk.metas, hn]
  rfl

theorem head?_known (hk : t.Keeps log) {x : Snapshot} (hx : (history log n).getLast? = some x) :
    ∃ r, t.head? n = some r ∧ r.id = x.metaId ∧ r.sequence + 1 = (history log n).length ∧
      r.state = Snapshot.stateText x.state := by
  obtain ⟨h, hh⟩ := List.getLast?_eq_some_iff.1 hx
  rw [head?, hk.metas, hh]
  exact ⟨_, newest_metaRows x, rfl, by simp, rfl⟩

theorem insertChange_known (hk : t.Keeps log) (hn : history log c.id ≠ []) :
    t.insertChange c = .error (.duplicateChange c.id) := by
  rw [insertChange, if_pos (hk.changeExists_iff.2 hn)]

theorem insertChange_fresh (hk : t.Keeps log) (hn : history log c.id = []) :
    ∃ u, t.insertChange c = .ok (Snapshot.idOf none c, u) ∧
      u.Keeps (log ++ [⟨Snapshot.idOf none c, c⟩]) := by
  have absent : ¬t.changeExists c.id = true := fun e => hk.changeExists_iff.1 e hn
  rw [insertChange, if_neg absent]
  refine ⟨_, rfl, ?_⟩
  generalize Snapshot.idOf none c = id
  have added : history (log ++ [⟨id, c⟩]) c.id = [⟨id, c⟩] := by
    rw [history_snoc log ⟨id, c⟩, hn, List.nil_append]
  have other : ∀ r ∈ t.changes, r.id ≠ c.id := by
    rintro r hr e
    exact absent (List.any_eq_true.2 ⟨r, hr, by simpa using e⟩)
  constructor
  · rw [map_id_insertChangeRow]
    exact ascending_insertNumber hk.sorted (by simpa using other)
  · intro r
    rw [mem_insertChangeRow]
    by_cases e : r.id = c.id
    · rw [e, added]
      constructor
      · intro either
        rcases either with rfl | hr
        · exact ⟨_, rfl, rfl, rfl⟩
        · exact absurd e (other r hr)
      · intro found
        obtain ⟨x, ⟨⟩, key, current⟩ := found
        exact .inl (by cases r; simp_all)
    · rw [history_snoc_of_ne e, ← hk.rows]
      exact or_iff_right fun h => e (h ▸ rfl)
  · intro n
    rw [metasOf_snoc, hk.metas]
    by_cases e : c.id = n
    · subst e
      rw [added, hn]
      simp [metaRows]
    · rw [history_snoc_of_ne (Ne.symm e)]
      simp [e]

theorem updateChange_fresh (hk : t.Keeps log) (hn : history log c.id = []) :
    t.updateChange c = .error (.changeNotFound c.id) := by
  rw [updateChange, hk.head?_fresh hn]

/-- An id that the change has already is refused. -/
theorem updateChange_repeated (hk : t.Keeps log) (hn : history log c.id ≠ [])
    (repeated : Snapshot.idOf (lastId none (history log c.id)) c ∈
      (history log c.id).map Snapshot.metaId) :
    t.updateChange c = .error (.database
      "UNIQUE constraint failed: change_meta.change_id, change_meta.meta_id") := by
  obtain ⟨x, hx⟩ := exists_last hn
  obtain ⟨r, hr, hid, -, -⟩ := hk.head?_known hx
  rw [lastId_eq_some none hx, ← hid, ← map_id_metaRows, ← hk.metas] at repeated
  rw [updateChange, hr]
  dsimp only
  rw [if_pos (List.any_eq_true.2 ?_)]
  obtain ⟨q, hq, e⟩ := List.mem_map.1 repeated
  exact ⟨q, hq, by simpa using e⟩

theorem updateChange_known (hk : t.Keeps log) (hn : history log c.id ≠ [])
    (fresh : Snapshot.idOf (lastId none (history log c.id)) c ∉
      (history log c.id).map Snapshot.metaId) :
    ∃ u, t.updateChange c = .ok (Snapshot.idOf (lastId none (history log c.id)) c, u) ∧
      u.Keeps (log ++ [⟨Snapshot.idOf (lastId none (history log c.id)) c, c⟩]) := by
  obtain ⟨x, hx⟩ := exists_last hn
  obtain ⟨r, hr, hid, hseq, -⟩ := hk.head?_known hx
  have last := lastId_eq_some none hx
  rw [last, ← hid, ← map_id_metaRows, ← hk.metas] at fresh
  rw [updateChange, hr, last, ← hid]
  dsimp only
  rw [if_neg ?_]
  · refine ⟨_, rfl, ?_⟩
    generalize Snapshot.idOf (some r.id) c = id
    have same : ∀ q : ChangeRow,
        (if q.id = c.id then { q with key := c.key, current := id } else q).id = q.id := by
      intro q
      split <;> rfl
    constructor
    · have ids : (t.changes.map fun q => if q.id = c.id then
          { q with key := c.key, current := id } else q).map ChangeRow.id =
            t.changes.map ChangeRow.id := by
        rw [List.map_map]
        exact List.map_congr_left fun q _ => same q
      rw [ids]
      exact hk.sorted
    · intro q
      by_cases e : q.id = c.id
      · have final : (history (log ++ [⟨id, c⟩]) c.id).getLast? = some ⟨id, c⟩ := by
          rw [history_snoc log ⟨id, c⟩, List.getLast?_concat]
        rw [e, final, List.mem_map]
        constructor
        · intro found
          obtain ⟨p, -, rfl⟩ := found
          rw [same] at e
          exact ⟨_, rfl, by simp [e]⟩
        · intro found
          obtain ⟨y, ⟨⟩, key, current⟩ := found
          refine ⟨⟨c.id, x.state.key, x.metaId⟩, (hk.rows _).2 ⟨x, hx, rfl, rfl⟩, ?_⟩
          cases q
          simp_all
      · rw [history_snoc_of_ne e, ← hk.rows, List.mem_map]
        constructor
        · intro found
          obtain ⟨p, hp, rfl⟩ := found
          rw [same] at e
          rwa [if_neg e]
        · intro hq
          exact ⟨q, hq, if_neg e⟩
    · intro n
      rw [metasOf_snoc, hk.metas]
      by_cases e : c.id = n
      · subst e
        rw [history_snoc log ⟨id, c⟩, metaRows_snoc, last, ← hid, hseq]
        simp
      · rw [history_snoc_of_ne (Ne.symm e)]
        simp [e]
  · intro e
    obtain ⟨q, hq, e⟩ := List.any_eq_true.1 e
    exact fresh (List.mem_map.2 ⟨q, hq, by simpa using e⟩)

theorem getChange_known (hk : t.Keeps log) (hn : history log n ≠ []) (pin : Option ObjectId) :
    t.getChange n pin = match snapshot? (history log n) pin with
      | some x => .ok x
      | none => .error (.missingMeta n ((pin.map ObjectId.hex).getD "")) := by
  have present : t.changeExists n = true := hk.changeExists_iff.2 hn
  rw [getChange.eq_def, present, Bool.not_true, if_neg Bool.false_ne_true]
  cases pin with
  | none =>
    obtain ⟨x, hx⟩ := exists_last hn
    obtain ⟨r, hr, hid, -, hs⟩ := hk.head?_known hx
    simp only [hr, snapshot?, hx]
    exact readMeta_eq hid hs
  | some id =>
    have found : ((metaRows n 0 none (history log n)).find? fun r => r.id = id).map readMeta =
        ((history log n).find? fun x => x.metaId = id).map .ok := find?_metaRows id
    rw [← hk.metas] at found
    simp only [snapshot?]
    cases hr : (t.metasOf n).find? fun r => r.id = id with
    | none =>
      rw [hr] at found
      rw [Option.map_eq_none_iff.1 found.symm]
    | some r =>
      rw [hr] at found
      obtain ⟨x, hx, e⟩ := Option.map_eq_some_iff.1 found.symm
      rw [hx]
      exact e.symm

theorem metaHistory_known (hk : t.Keeps log) (hn : history log n ≠ []) :
    t.metaHistory n = .ok ((history log n).map Snapshot.metaId) := by
  have present : t.changeExists n = true := hk.changeExists_iff.2 hn
  rw [metaHistory, present, Bool.not_true, if_neg Bool.false_ne_true, hk.metas, sorted_metaRows,
    map_id_metaRows]

theorem mem_findByKey (hk : t.Keeps log) {key : String} :
    n ∈ t.findByKey key ↔ ∃ x, (history log n).getLast? = some x ∧ x.state.key = key := by
  rw [findByKey, List.mem_map]
  constructor
  · intro found
    obtain ⟨r, hr, rfl⟩ := found
    obtain ⟨hr, named⟩ := List.mem_filter.1 hr
    obtain ⟨x, hx, hxk, -⟩ := (hk.rows r).1 hr
    exact ⟨x, hx, hxk ▸ by simpa using named⟩
  · intro found
    obtain ⟨x, hx, rfl⟩ := found
    refine ⟨⟨n, x.state.key, x.metaId⟩, List.mem_filter.2 ⟨?_, by simp⟩, rfl⟩
    exact (hk.rows _).2 ⟨x, hx, rfl, rfl⟩

theorem ascending_findByKey (hk : t.Keeps log) (key : String) : Ascending (t.findByKey key) :=
  hk.sorted.sublist (List.filter_sublist.map ChangeRow.id)

end Keeps

end TableStore

end CodeReview
