import CodeReview.Proofs.Action
import CodeReview.Proofs.Store.Distinct
set_option autoImplicit false

/-!
What a store tells of members. The uuids of the groups of an account are the ones under which a
group with that account is found, each of them once and in ascending order. A modification of the
members of a group gives the group exactly the members that it makes of the old ones, and shows
nowhere else. In tables this takes that no row of a member occurs twice, besides that every row
belongs to a group that is there.
-/
namespace CodeReview

namespace Uuid

theorem before_iff {u v : Uuid} : u.before v = true ↔ u.bytes < v.bytes :=
  decide_eq_true_iff

theorem before_trans {u v w : Uuid} (h : u.before v = true) (k : v.before w = true) :
    u.before w = true :=
  before_iff.2 (List.lt_trans (before_iff.1 h) (before_iff.1 k))

theorem before_of_not {u v : Uuid} (h : ¬v.before u = true) (ne : u ≠ v) : u.before v = true := by
  refine before_iff.2 (Std.not_le.1 fun le => ne ?_)
  have same := List.le_antisymm (Std.not_lt.1 fun lt => h (before_iff.2 lt)) le
  cases u
  cases v
  cases same
  rfl

end Uuid

namespace Store

variable {s t : Store}

theorem sorted_insertUuid {u : Uuid} {us : List Uuid} (h : us.Pairwise fun v w => v.before w = true)
    (new : u ∉ us) : (insertUuid u us).Pairwise fun v w => v.before w = true := by
  induction us with
  | nil => exact List.pairwise_singleton _ _
  | cons v vs ih =>
    obtain ⟨first, rest⟩ := List.pairwise_cons.1 h
    obtain ⟨ne, new⟩ := not_or.1 fun either => new (List.mem_cons.2 either)
    rw [insertUuid]
    split
    · next less =>
      refine List.pairwise_cons.2 ⟨fun w there => ?_, ih rest new⟩
      rcases mem_insertUuid.1 there with rfl | there
      · exact less
      · exact first w there
    · next more =>
      have less := Uuid.before_of_not more ne
      refine List.pairwise_cons.2 ⟨fun w there => ?_, h⟩
      rcases List.mem_cons.1 there with rfl | there
      · exact less
      · exact Uuid.before_trans less (first w there)

theorem sorted_sortUuids {us : List Uuid} (h : us.Nodup) :
    (sortUuids us).Pairwise fun u v => u.before v = true := by
  induction us with
  | nil => exact .nil
  | cons u us ih =>
    obtain ⟨new, rest⟩ := List.nodup_cons.1 h
    exact sorted_insertUuid (ih rest) fun there => new (mem_sortUuids.1 there)

/-- No row of a member occurs twice. -/
def Once : Store → Prop
  | .memory _ => True
  | .tables t => t.members.Nodup

theorem Once.of_groupRows (once : s.Once) (kind : t.inLists = s.inLists)
    (rows : t.groupRows = s.groupRows) : t.Once := by
  cases t with
  | memory m => trivial
  | tables t =>
    cases s with
    | memory m => cases kind
    | tables s =>
      rw [Once, (Prod.mk.inj rows).2]
      exact once

/-- Rows of one group for members of a set. -/
theorem nodup_rows (uuid : Uuid) {ids : List AccountId} (h : ids.Nodup) :
    (ids.map fun a => (⟨uuid, a⟩ : MemberRow)).Nodup := by
  exact List.pairwise_map.2 (h.imp fun ne same => ne (congrArg MemberRow.account same))

theorem once_of_createGroup (tidy : s.Tidy) (once : s.Once) {uuid : Uuid} {n : NewGroup}
    {g : Group} (h : s.createGroup uuid n = .ok (g, t)) : t.Once := by
  cases s with
  | memory m =>
    obtain ⟨m', -, rfl⟩ := ofMemory_eq_ok.1 h
    trivial
  | tables m =>
    have fresh := fresh_of_createGroup h
    obtain ⟨m', hm, rfl⟩ := ofTables_eq_ok.1 h
    unfold TableStore.createGroup at hm
    split at hm
    · simp at hm
    · split at hm
      · simp at hm
      · split at hm
        · simp at hm
        · split at hm
          · simp at hm
          · cases hm
            refine List.nodup_append.2 ⟨once, nodup_rows uuid n.members.nodup, ?_⟩
            rintro r old q new rfl
            obtain ⟨a, -, rfl⟩ := List.mem_map.1 new
            -- a row of the new group would belong to a group that is there
            obtain ⟨o, there, same⟩ := groupExists_iff.1 (tidy _ old)
            exact fresh o there same

theorem once_of_updateMembers (once : s.Once) {uuid : Uuid} {modify : AccountSet → AccountSet}
    {g : Group} (h : s.updateMembers uuid modify = .ok (g, t)) : t.Once := by
  cases s with
  | memory m =>
    obtain ⟨m', -, rfl⟩ := ofMemory_eq_ok.1 h
    trivial
  | tables m =>
    obtain ⟨m', hm, rfl⟩ := ofTables_eq_ok.1 h
    unfold TableStore.updateMembers at hm
    split at hm
    · simp at hm
    · dsimp only at hm
      split at hm
      · cases hm
        refine List.nodup_append.2 ⟨once.filter _,
          nodup_rows uuid ((modify (m.membersOf uuid)).nodup.filter _), ?_⟩
        rintro r old q new rfl
        obtain ⟨a, added, rfl⟩ := List.mem_map.1 new
        -- a row is added only for an account that had none
        have absent := (List.mem_filter.1 added).2
        have present := mem_membersOf.2 ⟨_, (List.mem_filter.1 old).1, rfl, rfl⟩
        rw [AccountSet.contains_iff.2 present] at absent
        cases absent
      · simp at hm

theorem once_of_deleteGroup (once : s.Once) {uuid : Uuid} {u : Unit}
    (h : s.deleteGroup uuid = .ok (u, t)) : t.Once := by
  cases s with
  | memory m =>
    obtain ⟨m', -, rfl⟩ := ofMemory_eq_ok.1 h
    trivial
  | tables m =>
    obtain ⟨m', hm, rfl⟩ := ofTables_eq_ok.1 h
    unfold TableStore.deleteGroup at hm
    split at hm
    · cases hm
      exact once.filter _
    · simp at hm

theorem Write.once (h : s.Write t) (tidy : s.Tidy) (once : s.Once) : t.Once := by
  cases h with
  | insertChange h =>
    obtain ⟨kind, rows⟩ := insertChange_groupRows h
    exact once.of_groupRows kind rows
  | updateChange h =>
    obtain ⟨kind, rows⟩ := updateChange_groupRows h
    exact once.of_groupRows kind rows
  | createAccount h =>
    obtain ⟨kind, rows⟩ := createAccount_groupRows h
    exact once.of_groupRows kind rows
  | setActive h =>
    obtain ⟨kind, rows⟩ := setActive_groupRows h
    exact once.of_groupRows kind rows
  | createGroup h => exact once_of_createGroup tidy once h
  | updateMembers h => exact once_of_updateMembers once h
  | deleteGroup h => exact once_of_deleteGroup once h

theorem Reachable.once (h : s.Reachable) : s.Once := by
  induction h with
  | memory => trivial
  | tables => exact List.nodup_nil
  | write hs ht ih => exact ht.once hs.tidy ih

theorem Reachable.sorted_groupsContaining (h : s.Reachable) (a : AccountId) :
    (s.groupsContaining a).Pairwise fun u v => u.before v = true := by
  cases s with
  | memory m =>
    have apart : (m.groups.map Group.uuid).Nodup := List.pairwise_map.2 h.distinct.uuids
    exact sorted_sortUuids (apart.sublist (List.filter_sublist.map _))
  | tables m =>
    refine sorted_sortUuids (List.pairwise_map.2 ((List.Pairwise.filter _ h.once).imp_of_mem ?_))
    intro r q hr hq ne same
    have mine : r.account = a := by simpa using (List.mem_filter.1 hr).2
    have its : q.account = a := by simpa using (List.mem_filter.1 hq).2
    cases r
    cases q
    exact ne (congr (congrArg MemberRow.mk same) (mine.trans its.symm))

theorem Reachable.getGroup_of_mem (h : s.Reachable) {g : Group} (there : g ∈ s.groups) :
    s.getGroup g.uuid = .ok g :=
  getGroup_eq_ok.2 (find?_of_distinct h.distinct.uuids there)

theorem Reachable.mem_groupsContaining_iff (h : s.Reachable) {u : Uuid} {a : AccountId} :
    u ∈ s.groupsContaining a ↔ ∃ g, s.getGroup u = .ok g ∧ g.hasMember a = true := by
  rw [mem_groupsContaining h.tidy]
  constructor
  · rintro ⟨g, there, rfl, member⟩
    exact ⟨g, h.getGroup_of_mem there, member⟩
  · rintro ⟨g, found, member⟩
    obtain ⟨there, same⟩ := mem_of_getGroup found
    exact ⟨g, there, same, member⟩

/-- The group of the uuid has the members that the modification makes of the old ones, and
nothing else has changed. -/
structure Remembers (s : Store) (uuid : Uuid) (modify : AccountSet → AccountSet) (old : Group)
    (t : Store) : Prop where
  group : t.getGroup uuid = .ok { old with members := modify old.members }
  others : ∀ u, u ≠ uuid → t.getGroup u = s.getGroup u
  groups : t.groups = s.groups.map (modified uuid modify)
  accounts : t.accounts = s.accounts
  changes : t.changes = s.changes

theorem find?_modified (uuid u : Uuid) (modify : AccountSet → AccountSet) (gs : List Group) :
    (gs.map (modified uuid modify)).find? (fun g => g.uuid = u) =
      (gs.find? fun g => g.uuid = u).map (modified uuid modify) := by
  rw [List.find?_map]
  congr 2
  funext g
  rw [Function.comp_apply, modified_uuid]

theorem Reachable.updateMembers_known (h : s.Reachable) {uuid : Uuid} {old : Group}
    (found : s.getGroup uuid = .ok old) (modify : AccountSet → AccountSet) :
    ∃ t, s.updateMembers uuid modify = .ok ({ old with members := modify old.members }, t) ∧
      s.Remembers uuid modify old t := by
  have there := getGroup_eq_ok.1 found
  obtain ⟨t, written, -⟩ := Store.updateMembers_known h.tidy there modify
  obtain ⟨groups, accounts, changes, -⟩ := updateMembers_eq_ok written
  refine ⟨t, written, ?group, ?others, groups, accounts, changes⟩
  case group =>
    rw [getGroup_eq_ok, groups, find?_modified, there, Option.map_some, modified,
      if_pos (mem_of_getGroup found).2]
  case others =>
    intro u ne
    rw [getGroup_eq, getGroup_eq, groups, find?_modified]
    cases other : s.groups.find? fun g => g.uuid = u with
    | none => rfl
    | some g =>
      have here : g.uuid = u := by simpa using List.find?_some other
      rw [Option.map_some, modified, if_neg fun same => ne (here.symm.trans same)]

theorem getGroup_error {uuid : Uuid} {e : StoreError} (h : s.getGroup uuid = .error e) :
    s.groups.find? (fun g => g.uuid = uuid) = none ∧ e = .groupNotFound uuid.text := by
  rw [getGroup_eq] at h
  split at h
  · cases h
  · next absent =>
    cases h
    exact ⟨absent, rfl⟩

end Store

/-- In every store that calls lead to, the groups of an account are those in which it is found,
and a modification of members shows in its group exactly, and nowhere else. -/
theorem Act.members_exact {w : World} (reachable : w.store.Reachable) (works : w.failing = []) :
    (∀ a, ∃ uuids, (groupsContaining a).run w = (.ok uuids, w) ∧
      uuids.Pairwise (fun u v => u.before v = true) ∧
      ∀ u, u ∈ uuids ↔ ∃ g, (getGroup u).run w = (.ok g, w) ∧ g.hasMember a = true) ∧
    ∀ uuid modify,
      (∃ old t, (getGroup uuid).run w = (.ok old, w) ∧ w.store.Remembers uuid modify old t ∧
        (updateMembers uuid modify).run w =
          if w.readOnly ∧ t ≠ w.store then
            (.error (.database "attempt to write a readonly database"), w)
          else (.ok { old with members := modify old.members }, { w with store := t })) ∨
      (getGroup uuid).run w = (.error (.groupNotFound uuid.text), w) ∧
        (updateMembers uuid modify).run w = (.error (.groupNotFound uuid.text), w) := by
  have reads {α : Type} (call : StoreCall) (f : Store → Except StoreError α) :
      (read call f).run w = (f w.store, w) := by
    rw [run_read, works, if_neg List.not_mem_nil]
  constructor
  · intro a
    refine ⟨_, reads .groupsContaining _, reachable.sorted_groupsContaining a, fun u => ?_⟩
    simp only [getGroup, reads, Prod.mk.injEq, and_true]
    exact reachable.mem_groupsContaining_iff
  · intro uuid modify
    simp only [getGroup, updateMembers, reads, run_write, works, if_neg List.not_mem_nil]
    cases found : w.store.getGroup uuid with
    | ok old =>
      obtain ⟨t, written, exact⟩ := reachable.updateMembers_known found modify
      refine .inl ⟨old, t, rfl, exact, ?_⟩
      rw [written]
    | error e =>
      obtain ⟨absent, rfl⟩ := Store.getGroup_error found
      refine .inr ⟨rfl, ?_⟩
      rw [Store.updateMembers_unknown absent]

/-- Tables with one of two groups deleted, in which the account 1000 was. -/
def oneOfTwoLeft : World where
  store := .tables
    ⟨[], [⟨Store.sampleUuid 2, ⟨2⟩, "b", none, Store.sampleUuid 2, false, 0⟩],
      [⟨Store.sampleUuid 2, ⟨1000⟩⟩, ⟨Store.sampleUuid 2, ⟨1001⟩⟩], [], []⟩
  failing := []
  directory := .listed []
  now := 0
  readOnly := false

theorem reachable_oneOfTwoLeft : oneOfTwoLeft.store.Reachable :=
  ((Store.Reachable.tables.write (.createGroup
      (show _ from rfl : Store.createGroup _ (Store.sampleUuid 1)
        { Store.emptyGroup "a" with members := .ofList [⟨1000⟩] } = .ok (_, _)))).write
    (.createGroup (show _ from rfl : Store.createGroup _ (Store.sampleUuid 2)
      { Store.emptyGroup "b" with members := .ofList [⟨1001⟩, ⟨1000⟩] } = .ok (_, _)))).write
    (.deleteGroup (show _ from rfl : Store.deleteGroup _ (Store.sampleUuid 1) = .ok (_, _)))

/-- The deleted group is among no groups, and the other one takes any members. -/
theorem members_oneOfTwoLeft :
    (∃ g, (Act.getGroup (Store.sampleUuid 2)).run oneOfTwoLeft = (.ok g, oneOfTwoLeft) ∧
      g.hasMember ⟨1000⟩ = true) ∧
    ∃ t, oneOfTwoLeft.store.Remembers (Store.sampleUuid 2)
        (fun members => (members.removeAll [⟨1000⟩]).insertAll [⟨1002⟩])
        ⟨Store.sampleUuid 2, ⟨2⟩, "b", none, Store.sampleUuid 2, .ofList [⟨1000⟩, ⟨1001⟩], false, 0⟩
        t ∧
      t.groupsContaining ⟨1000⟩ = [] := by
  obtain ⟨listed, written⟩ := Act.members_exact reachable_oneOfTwoLeft rfl
  constructor
  · obtain ⟨uuids, run, -, found⟩ := listed ⟨1000⟩
    cases run
    exact (found _).1 (by decide)
  · rcases written (Store.sampleUuid 2)
        (fun members => (members.removeAll [⟨1000⟩]).insertAll [⟨1002⟩]) with
      ⟨old, t, found, exact, run⟩ | ⟨absent, -⟩
    · cases found
      refine ⟨t, exact, ?_⟩
      rw [if_neg (by simp [oneOfTwoLeft])] at run
      have same := congrArg (fun p => p.2.store) run
      rw [← show _ = t from same]
      decide
    · cases absent

end CodeReview
