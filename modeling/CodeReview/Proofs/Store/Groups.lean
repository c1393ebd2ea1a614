import CodeReview.Proofs.Store.Reachable
set_option autoImplicit false

/-!
What the calls about groups do, whichever way the store is kept: each is told by the groups that
are there before and after it. In tables this takes that every row of a member belongs to a group
that is there. Only the number of a new group depends on the kind of store.
-/
namespace CodeReview.Store

def inLists : Store → Bool
  | .memory _ => true
  | .tables _ => false

/-- Every row of a member belongs to a group that is there. -/
def Tidy : Store → Prop
  | .memory _ => True
  | .tables t => ∀ r ∈ t.members, t.groupExists r.group = true

@[simp] theorem load_uuid (t : TableStore) (r : GroupRow) : (t.load r).uuid = r.uuid := rfl

theorem groupExists_iff {t : TableStore} {u : Uuid} :
    t.groupExists u = true ↔ ∃ g ∈ (tables t).groups, g.uuid = u := by
  simp only [TableStore.groupExists, List.any_eq_true, decide_eq_true_eq, groups, List.mem_map]
  constructor
  · rintro ⟨r, hr, hu⟩
    exact ⟨t.load r, ⟨r, hr, rfl⟩, hu⟩
  · rintro ⟨g, ⟨r, hr, rfl⟩, hu⟩
    exact ⟨r, hr, hu⟩

theorem mem_insertUuid {u v : Uuid} {us : List Uuid} : v ∈ insertUuid u us ↔ v = u ∨ v ∈ us := by
  induction us with
  | nil => simp [insertUuid]
  | cons w us ih =>
    rw [insertUuid]
    split
    · rw [List.mem_cons, List.mem_cons, ih, or_left_comm]
    · rw [List.mem_cons]

theorem mem_sortUuids {v : Uuid} {us : List Uuid} : v ∈ sortUuids us ↔ v ∈ us := by
  induction us with
  | nil => simp [sortUuids]
  | cons u us ih => rw [sortUuids, List.foldr_cons, mem_insertUuid, ← sortUuids, ih, List.mem_cons]

theorem mem_groupsContaining {s : Store} (tidy : s.Tidy) {u : Uuid} {a : AccountId} :
    u ∈ s.groupsContaining a ↔ ∃ g ∈ s.groups, g.uuid = u ∧ g.hasMember a = true := by
  cases s with
  | memory m =>
    simp only [groupsContaining, MemoryStore.groupsContaining, mem_sortUuids, List.mem_map,
      List.mem_filter, groups, and_assoc, and_comm (a := Group.uuid _ = u)]
  | tables t =>
    simp only [groupsContaining, TableStore.groupsContaining, mem_sortUuids, List.mem_map,
      List.mem_filter, decide_eq_true_eq, and_assoc]
    constructor
    · intro found
      obtain ⟨r, hr, rfl, rfl⟩ := found
      obtain ⟨g, hg, hu⟩ := groupExists_iff.1 (tidy r hr)
      obtain ⟨row, -, rfl⟩ := List.mem_map.1 hg
      exact ⟨_, hg, hu, AccountSet.contains_iff.2 (mem_membersOf.2 ⟨r, hr, hu.symm, rfl⟩)⟩
    · intro found
      obtain ⟨g, hg, rfl, member⟩ := found
      obtain ⟨row, -, rfl⟩ := List.mem_map.1 hg
      obtain ⟨r, hr, hu, ha⟩ := mem_membersOf.1 (AccountSet.contains_iff.1 member)
      exact ⟨r, hr, ha, hu⟩

/-- Why a group cannot be created beside others. -/
def refusal? (groups : List Group) (n : NewGroup) : Option StoreError :=
  match groups.find? fun g => g.name = n.name with
  | some _ => some (.duplicateGroupName n.name)
  | none => (n.owner.filter fun o => (groups.find? fun g => g.uuid = o).isNone).map fun o =>
    .groupNotFound o.text

def groupNumbers (s : Store) : List UInt32 :=
  s.groups.map fun g => g.id.number

/-- The number of the next group, by the counter or after the greatest that is there. -/
def nextGroup : Store → Except StoreError UInt32
  | .memory m => .ok m.nextGroup
  | .tables t => column32 (nextNumber firstGroup.toNat (tables t).groupNumbers)

/-- What creating a group comes to when its uuid is new. -/
def created (s : Store) (uuid : Uuid) (n : NewGroup) : Except StoreError Group :=
  match refusal? s.groups n with
  | some e => .error e
  | none => s.nextGroup.map fun id => n.withIds uuid ⟨id⟩

/-- The rows of a new group hold its members, and those of the others stay. -/
theorem membersOf_created {t : TableStore} (tidy : (tables t).Tidy) {uuid : Uuid}
    (fresh : ∀ g ∈ (tables t).groups, g.uuid ≠ uuid) (row : GroupRow) (members : AccountSet)
    (u : Uuid) :
    TableStore.membersOf { t with
      groups := t.groups ++ [row],
      members := t.members ++ members.ids.map fun a => ⟨uuid, a⟩ } u =
        if u = uuid then members else t.membersOf u := by
  have orphans : ∀ r ∈ t.members, r.group ≠ uuid := by
    intro r hr e
    obtain ⟨g, hg, hu⟩ := groupExists_iff.1 (tidy r hr)
    exact fresh g hg (hu.trans e)
  apply AccountSet.ext
  intro a
  simp only [mem_membersOf, List.mem_append, List.mem_map]
  split
  · next e =>
    subst e
    constructor
    · rintro ⟨r, hr | ⟨b, hb, rfl⟩, hg, rfl⟩
      · exact absurd hg (orphans r hr)
      · exact hb
    · intro ha
      exact ⟨⟨u, a⟩, .inr ⟨a, ha, rfl⟩, rfl, rfl⟩
  · next ne =>
    rw [mem_membersOf]
    constructor
    · rintro ⟨r, hr | ⟨b, -, rfl⟩, hg, ha⟩
      · exact ⟨r, hr, hg, ha⟩
      · exact absurd hg.symm ne
    · rintro ⟨r, hr, hg, ha⟩
      exact ⟨r, .inl hr, hg, ha⟩

theorem createGroup_memory {m : MemoryStore} {uuid : Uuid}
    (fresh : ∀ g ∈ m.groups, g.uuid ≠ uuid) (n : NewGroup) :
    match (memory m).created uuid n with
    | .error e => (memory m).createGroup uuid n = .error e
    | .ok g => ∃ t, (memory m).createGroup uuid n = .ok (g, t) ∧ t.groups = m.groups ++ [g] ∧
      t.Tidy ∧ t.inLists = true := by
  have others : (m.groups.filter fun g => g.uuid ≠ uuid) = m.groups :=
    List.filter_eq_self.2 fun g hg => by simpa using fresh g hg
  unfold created refusal? groups createGroup MemoryStore.createGroup MemoryStore.findGroupByName
    MemoryStore.group?
  dsimp only
  cases m.groups.find? fun g => g.name = n.name with
  | some g => rfl
  | none =>
    cases n.owner.filter fun o => (m.groups.find? fun g => g.uuid = o).isNone with
    | some o => rfl
    | none =>
      refine ⟨_, rfl, ?_, trivial, rfl⟩
      rw [others]

theorem createGroup_tables {t : TableStore} (tidy : (tables t).Tidy) {uuid : Uuid}
    (fresh : ∀ g ∈ (tables t).groups, g.uuid ≠ uuid) (n : NewGroup) :
    match (tables t).created uuid n with
    | .error e => (tables t).createGroup uuid n = .error e
    | .ok g => ∃ t', (tables t).createGroup uuid n = .ok (g, t') ∧
      t'.groups = (tables t).groups ++ [g] ∧ t'.Tidy ∧ t'.inLists = false := by
  have names : t.groups.any (fun r => r.name = n.name) =
      ((tables t).groups.find? fun g => g.name = n.name).isSome := by
    rw [List.isSome_find?, groups, List.any_map]
    rfl
  have owners : ∀ o, (!t.groupExists o) = ((tables t).groups.find? fun g => g.uuid = o).isNone := by
    intro o
    rw [← Option.not_isSome, List.isSome_find?, groups, List.any_map]
    rfl
  have new : t.groupExists uuid = false := by
    rw [← Bool.not_eq_true, groupExists_iff]
    rintro ⟨g, hg, hu⟩
    exact fresh g hg hu
  have numbers : (t.groups.map fun r => r.id.number) = (tables t).groupNumbers := by
    rw [groupNumbers, groups, List.map_map]
    rfl
  unfold created refusal? createGroup TableStore.createGroup nextGroup
  simp only [names, owners, numbers, new]
  cases (tables t).groups.find? fun g => g.name = n.name with
  | some g => rfl
  | none =>
    cases n.owner.filter fun o => ((tables t).groups.find? fun g => g.uuid = o).isNone with
    | some o => rfl
    | none =>
      cases column32 (nextNumber firstGroup.toNat (tables t).groupNumbers) with
      | error e => rfl
      | ok id =>
        refine ⟨_, rfl, ?groups, ?tidy, rfl⟩
        case groups =>
          have old : ∀ r ∈ t.groups, r.uuid ≠ uuid := fun r hr =>
            fresh (t.load r) (List.mem_map_of_mem hr)
          simp only [groups, List.map_append, List.map_singleton]
          congr 1
          · apply List.map_congr_left
            intro r hr
            rw [TableStore.load, membersOf_created tidy fresh, if_neg (old r hr), TableStore.load]
          · rw [TableStore.load, membersOf_created tidy fresh, if_pos rfl]
            rfl
        case tidy =>
          intro r hr
          rw [TableStore.groupExists, List.any_append, Bool.or_eq_true]
          rcases List.mem_append.1 hr with hr | hr
          · exact .inl (tidy r hr)
          · obtain ⟨a, -, rfl⟩ := List.mem_map.1 hr
            right
            simp

theorem createGroup_fresh {s : Store} (tidy : s.Tidy) {uuid : Uuid}
    (fresh : ∀ g ∈ s.groups, g.uuid ≠ uuid) (n : NewGroup) :
    match s.created uuid n with
    | .error e => s.createGroup uuid n = .error e
    | .ok g => ∃ t, s.createGroup uuid n = .ok (g, t) ∧ t.groups = s.groups ++ [g] ∧
      t.Tidy ∧ t.inLists = s.inLists := by
  cases s with
  | memory m => exact createGroup_memory fresh n
  | tables t => exact createGroup_tables tidy fresh n

theorem find?_tables {t : TableStore} {u : Uuid} :
    (tables t).groups.find? (fun g => g.uuid = u) =
      (t.groups.find? fun r => r.uuid = u).map t.load := by
  rw [groups, List.find?_map]
  rfl

theorem groupExists_of_find? {t : TableStore} {u : Uuid} {g : Group}
    (h : (tables t).groups.find? (fun g => g.uuid = u) = some g) : t.groupExists u = true :=
  groupExists_iff.2 ⟨g, List.mem_of_find?_eq_some h, by simpa using List.find?_some h⟩

theorem groupExists_of_find?_none {t : TableStore} {u : Uuid}
    (h : (tables t).groups.find? (fun g => g.uuid = u) = none) : t.groupExists u = false := by
  rw [← Bool.not_eq_true, groupExists_iff]
  rintro ⟨g, hg, hu⟩
  simpa [hu] using List.find?_eq_none.1 h g hg

theorem updateMembers_unknown {s : Store} {uuid : Uuid}
    (h : s.groups.find? (fun g => g.uuid = uuid) = none) (modify : AccountSet → AccountSet) :
    s.updateMembers uuid modify = .error (.groupNotFound uuid.text) := by
  cases s with
  | memory m =>
    have none : m.group? uuid = none := h
    rw [updateMembers, MemoryStore.updateMembers, none]
    rfl
  | tables t =>
    rw [updateMembers, TableStore.updateMembers, groupExists_of_find?_none h]
    rfl

theorem updateMembers_known {s : Store} (tidy : s.Tidy) {uuid : Uuid} {g : Group}
    (h : s.groups.find? (fun g => g.uuid = uuid) = some g) (modify : AccountSet → AccountSet) :
    ∃ t, s.updateMembers uuid modify = .ok ({ g with members := modify g.members }, t) ∧
      t.groups = s.groups.map (modified uuid modify) ∧ t.Tidy ∧ t.inLists = s.inLists := by
  have written : ∃ t, s.updateMembers uuid modify =
      .ok ({ g with members := modify g.members }, t) ∧ t.Tidy ∧ t.inLists = s.inLists := by
    cases s with
    | memory m =>
      have found : m.group? uuid = some g := h
      rw [updateMembers, MemoryStore.updateMembers, found]
      exact ⟨_, rfl, trivial, rfl⟩
    | tables t =>
      have there := groupExists_of_find? h
      rw [find?_tables] at h
      obtain ⟨r, hr, rfl⟩ := Option.map_eq_some_iff.1 h
      obtain rfl : r.uuid = uuid := by simpa using List.find?_some hr
      unfold updateMembers TableStore.updateMembers TableStore.group?
      simp only [there, Bool.not_true, Bool.false_eq_true, if_false, hr, Option.map_some]
      rw [TableStore.load, membersOf_rewritten, if_pos rfl]
      refine ⟨_, rfl, ?tidy, rfl⟩
      case tidy =>
        intro x hx
        rcases List.mem_append.1 hx with hx | hx
        · exact tidy x (List.mem_filter.1 hx).1
        · obtain ⟨a, -, rfl⟩ := List.mem_map.1 hx
          exact there
  obtain ⟨t, ht, tidy', kind⟩ := written
  exact ⟨t, ht, (updateMembers_eq_ok ht).1, tidy', kind⟩

theorem deleteGroup_unknown {s : Store} {uuid : Uuid}
    (h : s.groups.find? (fun g => g.uuid = uuid) = none) :
    s.deleteGroup uuid = .error (.groupNotFound uuid.text) := by
  cases s with
  | memory m =>
    have none : m.group? uuid = none := h
    rw [deleteGroup, MemoryStore.deleteGroup, none]
    rfl
  | tables t =>
    rw [deleteGroup, TableStore.deleteGroup, groupExists_of_find?_none h]
    rfl

theorem membersOf_deleted {t : TableStore} {uuid u : Uuid} (ne : u ≠ uuid)
    (rows : List GroupRow) :
    TableStore.membersOf { t with
      groups := rows, members := t.members.filter fun m => m.group ≠ uuid } u =
        t.membersOf u := by
  apply AccountSet.ext
  intro a
  simp only [mem_membersOf, List.mem_filter, decide_eq_true_eq]
  constructor
  · rintro ⟨r, ⟨hr, -⟩, hg, ha⟩
    exact ⟨r, hr, hg, ha⟩
  · rintro ⟨r, hr, rfl, ha⟩
    exact ⟨r, ⟨hr, ne⟩, rfl, ha⟩

theorem deleteGroup_known {s : Store} (tidy : s.Tidy) {uuid : Uuid} {g : Group}
    (h : s.groups.find? (fun g => g.uuid = uuid) = some g) :
    ∃ t, s.deleteGroup uuid = .ok ((), t) ∧
      t.groups = (s.groups.filter fun g => g.uuid ≠ uuid) ∧ t.Tidy ∧ t.inLists = s.inLists := by
  cases s with
  | memory m =>
    have found : m.group? uuid = some g := h
    rw [deleteGroup, MemoryStore.deleteGroup, found]
    exact ⟨_, rfl, rfl, trivial, rfl⟩
  | tables t =>
    rw [deleteGroup, TableStore.deleteGroup, groupExists_of_find? h]
    refine ⟨_, rfl, ?groups, ?tidy, rfl⟩
    case groups =>
      rw [groups, groups, List.filter_map]
      apply List.map_congr_left
      intro r hr
      have ne : r.uuid ≠ uuid := by simpa using (List.mem_filter.1 hr).2
      rw [TableStore.load, membersOf_deleted ne, TableStore.load]
    case tidy =>
      intro r hr
      obtain ⟨hr, ne⟩ := List.mem_filter.1 hr
      have ne : r.group ≠ uuid := by simpa using ne
      obtain ⟨g, hg, hu⟩ := List.any_eq_true.1 (tidy r hr)
      have hu : g.uuid = r.group := by simpa using hu
      refine List.any_eq_true.2 ⟨g, List.mem_filter.2 ⟨hg, ?_⟩, by simpa using hu⟩
      simpa [hu] using ne

/-- The rows of groups and of members. -/
def groupRows : Store → List GroupRow × List MemberRow
  | .memory _ => ([], [])
  | .tables t => (t.groups, t.members)

theorem Tidy.of_groupRows {s t : Store} (tidy : s.Tidy) (kind : t.inLists = s.inLists)
    (rows : t.groupRows = s.groupRows) : t.Tidy := by
  cases t with
  | memory m => trivial
  | tables t =>
    cases s with
    | memory m => cases kind
    | tables s =>
      obtain ⟨groups, members⟩ := Prod.mk.inj rows
      intro r hr
      rw [TableStore.groupExists, groups]
      exact tidy r (members ▸ hr)

theorem insertChange_groupRows {s t : Store} {c : Change} {id : ObjectId}
    (h : s.insertChange c = .ok (id, t)) :
    t.inLists = s.inLists ∧ t.groupRows = s.groupRows := by
  cases s with
  | memory m =>
    obtain ⟨m', -, rfl⟩ := ofMemory_eq_ok.1 h
    exact ⟨rfl, rfl⟩
  | tables m =>
    obtain ⟨m', hm, rfl⟩ := ofTables_eq_ok.1 h
    unfold TableStore.insertChange at hm
    split at hm
    · simp at hm
    · simp only [Except.ok.injEq, Prod.mk.injEq] at hm
      obtain ⟨-, rfl⟩ := hm
      exact ⟨rfl, rfl⟩

theorem updateChange_groupRows {s t : Store} {c : Change} {id : ObjectId}
    (h : s.updateChange c = .ok (id, t)) :
    t.inLists = s.inLists ∧ t.groupRows = s.groupRows := by
  cases s with
  | memory m =>
    obtain ⟨m', -, rfl⟩ := ofMemory_eq_ok.1 h
    exact ⟨rfl, rfl⟩
  | tables m =>
    obtain ⟨m', hm, rfl⟩ := ofTables_eq_ok.1 h
    unfold TableStore.updateChange at hm
    split at hm
    · simp at hm
    · dsimp only at hm
      split at hm
      · simp at hm
      · simp only [Except.ok.injEq, Prod.mk.injEq] at hm
        obtain ⟨-, rfl⟩ := hm
        exact ⟨rfl, rfl⟩

theorem createAccount_groupRows {s t : Store} {n : NewAccount} {a : Account}
    (h : s.createAccount n = .ok (a, t)) :
    t.inLists = s.inLists ∧ t.groupRows = s.groupRows := by
  cases s with
  | memory m =>
    obtain ⟨m', -, rfl⟩ := ofMemory_eq_ok.1 h
    exact ⟨rfl, rfl⟩
  | tables m =>
    obtain ⟨m', hm, rfl⟩ := ofTables_eq_ok.1 h
    unfold TableStore.createAccount at hm
    split at hm
    · simp at hm
    · split at hm
      · simp at hm
      · cases hm
        exact ⟨rfl, rfl⟩

theorem setActive_groupRows {s t : Store} {id : AccountId} {active : Bool} {u : Unit}
    (h : s.setActive id active = .ok (u, t)) :
    t.inLists = s.inLists ∧ t.groupRows = s.groupRows := by
  cases s with
  | memory m =>
    obtain ⟨m', -, rfl⟩ := ofMemory_eq_ok.1 h
    exact ⟨rfl, rfl⟩
  | tables m =>
    obtain ⟨m', hm, rfl⟩ := ofTables_eq_ok.1 h
    unfold TableStore.setActive at hm
    split at hm
    · cases hm
      exact ⟨rfl, rfl⟩
    · simp at hm

/-- In tables a group is only created under a uuid that no group has. -/
theorem fresh_of_createGroup {m : TableStore} {t : Store} {uuid : Uuid} {n : NewGroup} {g : Group}
    (h : (tables m).createGroup uuid n = .ok (g, t)) :
    ∀ o ∈ (tables m).groups, o.uuid ≠ uuid := by
  obtain ⟨m', hm, -⟩ := ofTables_eq_ok.1 h
  unfold TableStore.createGroup at hm
  split at hm
  · simp at hm
  · split at hm
    · simp at hm
    · split at hm
      · simp at hm
      · split at hm
        · simp at hm
        · next absent => exact fun o there same => absent (groupExists_iff.2 ⟨o, there, same⟩)

theorem tidy_of_createGroup {s t : Store} (tidy : s.Tidy) {uuid : Uuid} {n : NewGroup} {g : Group}
    (h : s.createGroup uuid n = .ok (g, t)) : t.Tidy ∧ t.inLists = s.inLists := by
  cases s with
  | memory m =>
    obtain ⟨m', -, rfl⟩ := ofMemory_eq_ok.1 h
    exact ⟨trivial, rfl⟩
  | tables m =>
    have fresh := fresh_of_createGroup h
    have result := createGroup_tables tidy fresh n
    rw [h] at result
    split at result
    · cases result
    · obtain ⟨t', e, -, tidy', kind⟩ := result
      cases e
      exact ⟨tidy', kind⟩

theorem Write.tidy {s t : Store} (h : s.Write t) (tidy : s.Tidy) :
    t.Tidy ∧ t.inLists = s.inLists := by
  cases h with
  | insertChange h =>
    obtain ⟨kind, rows⟩ := insertChange_groupRows h
    exact ⟨tidy.of_groupRows kind rows, kind⟩
  | updateChange h =>
    obtain ⟨kind, rows⟩ := updateChange_groupRows h
    exact ⟨tidy.of_groupRows kind rows, kind⟩
  | createAccount h =>
    obtain ⟨kind, rows⟩ := createAccount_groupRows h
    exact ⟨tidy.of_groupRows kind rows, kind⟩
  | setActive h =>
    obtain ⟨kind, rows⟩ := setActive_groupRows h
    exact ⟨tidy.of_groupRows kind rows, kind⟩
  | createGroup h => exact tidy_of_createGroup tidy h
  | @updateMembers uuid modify g _ h =>
    cases found : s.groups.find? fun g => g.uuid = uuid with
    | none =>
      rw [updateMembers_unknown found] at h
      cases h
    | some g =>
      obtain ⟨t', e, -, tidy', kind⟩ := updateMembers_known tidy found modify
      rw [e] at h
      cases h
      exact ⟨tidy', kind⟩
  | @deleteGroup uuid _ _ h =>
    cases found : s.groups.find? fun g => g.uuid = uuid with
    | none =>
      rw [deleteGroup_unknown found] at h
      cases h
    | some g =>
      obtain ⟨t', e, -, tidy', kind⟩ := deleteGroup_known tidy found
      rw [e] at h
      cases h
      exact ⟨tidy', kind⟩

theorem Reachable.tidy {s : Store} (h : s.Reachable) : s.Tidy := by
  induction h with
  | memory => trivial
  | tables =>
    intro r hr
    cases hr
  | write _ ht ih => exact (ht.tidy ih).1

end CodeReview.Store
