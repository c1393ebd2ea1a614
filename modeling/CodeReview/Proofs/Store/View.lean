import CodeReview.Store.Basic
set_option autoImplicit false

/-!
What a store holds, whichever way it is kept: accounts, groups with their members, and all there
is of changes. Each call is told by what it reads of these three and what it does to them.
-/
namespace CodeReview.Store

def accounts : Store → List Account
  | .memory m => m.accounts
  | .tables t => t.accounts

def groups : Store → List Group
  | .memory m => m.groups
  | .tables t => t.groups.map t.load

/-- All that a store keeps of changes. -/
def changes : Store → List History ⊕ List ChangeRow × List MetaRow
  | .memory m => .inl m.changes
  | .tables t => .inr (t.changes, t.metas)

/-- The number that comes next, where a counter keeps it. -/
def counter? : Store → Option UInt32
  | .memory m => some m.nextAccount
  | .tables _ => none

/-- A row is found by its key where no two rows share one. -/
theorem find?_of_distinct {α β : Type} [DecidableEq β] {key : α → β} {l : List α}
    (hd : l.Pairwise fun a b => key a ≠ key b) {a : α} (h : a ∈ l) :
    l.find? (fun b => key b = key a) = some a := by
  induction l with
  | nil => simp at h
  | cons b bs ih =>
    rw [List.pairwise_cons] at hd
    rcases List.mem_cons.1 h with rfl | hm
    · simp
    · rw [List.find?_cons_of_neg (by simpa using hd.1 a hm)]
      exact ih hd.2 hm

theorem map_eq_ok {σ α : Type} {make : σ → Store} {r : Except StoreError (α × σ)} {a : α}
    {t : Store} :
    (r.map fun p => (p.1, make p.2)) = .ok (a, t) ↔ ∃ m, r = .ok (a, m) ∧ t = make m := by
  cases r with
  | error e => simp [Except.map]
  | ok p =>
    obtain ⟨b, m⟩ := p
    simp only [Except.map, Except.ok.injEq, Prod.mk.injEq]
    constructor
    · intro h
      exact ⟨m, ⟨h.1, rfl⟩, h.2.symm⟩
    · intro h
      obtain ⟨n, ⟨rfl, rfl⟩, rfl⟩ := h
      exact ⟨rfl, rfl⟩

theorem ofMemory_eq_ok {α : Type} {r : Except StoreError (α × MemoryStore)} {a : α} {t : Store} :
    ofMemory r = .ok (a, t) ↔ ∃ m, r = .ok (a, m) ∧ t = .memory m :=
  map_eq_ok

theorem ofTables_eq_ok {α : Type} {r : Except StoreError (α × TableStore)} {a : α} {t : Store} :
    ofTables r = .ok (a, t) ↔ ∃ m, r = .ok (a, m) ∧ t = .tables m :=
  map_eq_ok

theorem getAccount_eq (s : Store) (id : AccountId) :
    s.getAccount id = match s.accounts.find? fun a => a.id = id with
      | some a => .ok a
      | none => .error (.accountNotFound id) := by
  cases s <;> rfl

theorem getAccount_eq_ok {s : Store} {id : AccountId} {a : Account} :
    s.getAccount id = .ok a ↔ s.accounts.find? (fun b => b.id = id) = some a := by
  rw [getAccount_eq]
  cases s.accounts.find? fun b => b.id = id <;> simp

theorem mem_of_getAccount {s : Store} {id : AccountId} {a : Account}
    (h : s.getAccount id = .ok a) : a ∈ s.accounts ∧ a.id = id := by
  have hf := getAccount_eq_ok.1 h
  exact ⟨List.mem_of_find?_eq_some hf, by simpa using List.find?_some hf⟩

theorem findByUsername_eq (s : Store) (name : String) :
    s.findByUsername name = s.accounts.find? fun a => a.username = some name := by
  cases s <;> rfl

theorem mem_of_findByUsername {s : Store} {name : String} {a : Account}
    (h : s.findByUsername name = some a) : a ∈ s.accounts ∧ a.username = some name := by
  rw [findByUsername_eq] at h
  exact ⟨List.mem_of_find?_eq_some h, by simpa using List.find?_some h⟩

theorem mem_of_findByEmail {s : Store} {email : String} {a : Account}
    (h : a ∈ s.findByEmail email) : a ∈ s.accounts := by
  cases s <;> exact (List.mem_filter.1 h).1

theorem mem_of_findByFullName {s : Store} {name : String} {a : Account}
    (h : a ∈ s.findByFullName name) : a ∈ s.accounts := by
  cases s <;> exact (List.mem_filter.1 h).1

theorem getGroup_eq (s : Store) (uuid : Uuid) :
    s.getGroup uuid = match s.groups.find? fun g => g.uuid = uuid with
      | some g => .ok g
      | none => .error (.groupNotFound uuid.text) := by
  cases s with
  | memory m => rfl
  | tables t =>
    simp only [getGroup, TableStore.getGroup, TableStore.group?, groups, List.find?_map]
    rfl

theorem findGroupByName_eq (s : Store) (name : String) :
    s.findGroupByName name = s.groups.find? fun g => g.name = name := by
  cases s with
  | memory m => rfl
  | tables t =>
    simp only [findGroupByName, TableStore.findGroupByName, groups, List.find?_map]
    rfl

theorem findGroupById_eq (s : Store) (id : GroupNumber) :
    s.findGroupById id = s.groups.find? fun g => g.id = id := by
  cases s with
  | memory m => rfl
  | tables t =>
    simp only [findGroupById, TableStore.findGroupById, groups, List.find?_map]
    rfl

theorem getGroup_eq_ok {s : Store} {uuid : Uuid} {g : Group} :
    s.getGroup uuid = .ok g ↔ s.groups.find? (fun h => h.uuid = uuid) = some g := by
  rw [getGroup_eq]
  cases s.groups.find? fun h => h.uuid = uuid <;> simp

theorem mem_of_getGroup {s : Store} {uuid : Uuid} {g : Group} (h : s.getGroup uuid = .ok g) :
    g ∈ s.groups ∧ g.uuid = uuid := by
  have hf := getGroup_eq_ok.1 h
  exact ⟨List.mem_of_find?_eq_some hf, by simpa using List.find?_some hf⟩

theorem mem_of_findGroupByName {s : Store} {name : String} {g : Group}
    (h : s.findGroupByName name = some g) : g ∈ s.groups ∧ g.name = name := by
  rw [findGroupByName_eq] at h
  exact ⟨List.mem_of_find?_eq_some h, by simpa using List.find?_some h⟩

theorem mem_of_findGroupById {s : Store} {id : GroupNumber} {g : Group}
    (h : s.findGroupById id = some g) : g ∈ s.groups ∧ g.id = id := by
  rw [findGroupById_eq] at h
  exact ⟨List.mem_of_find?_eq_some h, by simpa using List.find?_some h⟩

theorem createAccount_eq_ok {s t : Store} {n : NewAccount} {a : Account}
    (h : s.createAccount n = .ok (a, t)) :
    a = n.withId a.id ∧ t.accounts = s.accounts ++ [a] ∧ t.groups = s.groups ∧
      t.changes = s.changes := by
  cases s with
  | memory m =>
    obtain ⟨m', hm, rfl⟩ := ofMemory_eq_ok.1 h
    unfold MemoryStore.createAccount at hm
    split at hm
    · simp at hm
    · split at hm
      · simp at hm
      · cases hm
        exact ⟨rfl, rfl, rfl, rfl⟩
  | tables m =>
    obtain ⟨m', hm, rfl⟩ := ofTables_eq_ok.1 h
    unfold TableStore.createAccount at hm
    split at hm
    · simp at hm
    · split at hm
      · simp at hm
      · cases hm
        exact ⟨rfl, rfl, rfl, rfl⟩

theorem insertChange_eq_ok {s t : Store} {c : Change} {id : ObjectId}
    (h : s.insertChange c = .ok (id, t)) :
    t.accounts = s.accounts ∧ t.groups = s.groups ∧ t.counter? = s.counter? := by
  cases s with
  | memory m =>
    obtain ⟨m', hm, rfl⟩ := ofMemory_eq_ok.1 h
    unfold MemoryStore.insertChange at hm
    split at hm
    · simp at hm
    · simp only [Except.ok.injEq, Prod.mk.injEq] at hm
      obtain ⟨-, rfl⟩ := hm
      exact ⟨rfl, rfl, rfl⟩
  | tables m =>
    obtain ⟨m', hm, rfl⟩ := ofTables_eq_ok.1 h
    unfold TableStore.insertChange at hm
    split at hm
    · simp at hm
    · simp only [Except.ok.injEq, Prod.mk.injEq] at hm
      obtain ⟨-, rfl⟩ := hm
      exact ⟨rfl, rfl, rfl⟩

theorem updateChange_eq_ok {s t : Store} {c : Change} {id : ObjectId}
    (h : s.updateChange c = .ok (id, t)) :
    t.accounts = s.accounts ∧ t.groups = s.groups ∧ t.counter? = s.counter? := by
  cases s with
  | memory m =>
    obtain ⟨m', hm, rfl⟩ := ofMemory_eq_ok.1 h
    unfold MemoryStore.updateChange at hm
    split at hm
    · simp at hm
    · simp only [Except.ok.injEq, Prod.mk.injEq] at hm
      obtain ⟨-, rfl⟩ := hm
      exact ⟨rfl, rfl, rfl⟩
  | tables m =>
    obtain ⟨m', hm, rfl⟩ := ofTables_eq_ok.1 h
    unfold TableStore.updateChange at hm
    split at hm
    · simp at hm
    · dsimp only at hm
      split at hm
      · simp at hm
      · simp only [Except.ok.injEq, Prod.mk.injEq] at hm
        obtain ⟨-, rfl⟩ := hm
        exact ⟨rfl, rfl, rfl⟩

theorem setActive_eq_ok {s t : Store} {id : AccountId} {active : Bool} {u : Unit}
    (h : s.setActive id active = .ok (u, t)) :
    t.accounts = (s.accounts.map fun a => if a.id = id then { a with active := active } else a) ∧
      t.groups = s.groups ∧ t.changes = s.changes ∧ t.counter? = s.counter? := by
  cases s with
  | memory m =>
    obtain ⟨m', hm, rfl⟩ := ofMemory_eq_ok.1 h
    unfold MemoryStore.setActive at hm
    split at hm
    · simp at hm
    · cases hm
      exact ⟨rfl, rfl, rfl, rfl⟩
  | tables m =>
    obtain ⟨m', hm, rfl⟩ := ofTables_eq_ok.1 h
    unfold TableStore.setActive at hm
    split at hm
    · cases hm
      exact ⟨rfl, rfl, rfl, rfl⟩
    · simp at hm

theorem createGroup_eq_ok {s t : Store} {uuid : Uuid} {n : NewGroup} {g : Group}
    (h : s.createGroup uuid n = .ok (g, t)) :
    t.accounts = s.accounts ∧ t.changes = s.changes ∧ t.counter? = s.counter? := by
  cases s with
  | memory m =>
    obtain ⟨m', hm, rfl⟩ := ofMemory_eq_ok.1 h
    unfold MemoryStore.createGroup at hm
    split at hm
    · simp at hm
    · split at hm
      · simp at hm
      · cases hm
        exact ⟨rfl, rfl, rfl⟩
  | tables m =>
    obtain ⟨m', hm, rfl⟩ := ofTables_eq_ok.1 h
    unfold TableStore.createGroup at hm
    split at hm
    · simp at hm
    · split at hm
      · simp at hm
      · split at hm
        · simp at hm
        · split at hm
          · simp at hm
          · cases hm
            exact ⟨rfl, rfl, rfl⟩

theorem deleteGroup_eq_ok {s t : Store} {uuid : Uuid} {u : Unit}
    (h : s.deleteGroup uuid = .ok (u, t)) :
    t.accounts = s.accounts ∧ t.changes = s.changes ∧ t.counter? = s.counter? := by
  cases s with
  | memory m =>
    obtain ⟨m', hm, rfl⟩ := ofMemory_eq_ok.1 h
    unfold MemoryStore.deleteGroup at hm
    split at hm
    · simp at hm
    · cases hm
      exact ⟨rfl, rfl, rfl⟩
  | tables m =>
    obtain ⟨m', hm, rfl⟩ := ofTables_eq_ok.1 h
    unfold TableStore.deleteGroup at hm
    split at hm
    · cases hm
      exact ⟨rfl, rfl, rfl⟩
    · simp at hm

/-- A group with the members that a modification makes, if it is the one of the uuid. -/
def modified (uuid : Uuid) (modify : AccountSet → AccountSet) (g : Group) : Group :=
  if g.uuid = uuid then { g with members := modify g.members } else g

theorem mem_membersOf {t : TableStore} {u : Uuid} {a : AccountId} :
    a ∈ t.membersOf u ↔ ∃ r ∈ t.members, r.group = u ∧ r.account = a := by
  simp [TableStore.membersOf, AccountSet.mem_ofList, and_assoc]

/-- The rows that stay and the rows that are added hold just the members that are wanted. -/
theorem membersOf_rewritten (m : TableStore) (uuid u : Uuid) (next : AccountSet) :
    TableStore.membersOf { m with members :=
        (m.members.filter fun r => r.group ≠ uuid || next.contains r.account) ++
          (next.ids.filter fun a => !(m.membersOf uuid).contains a).map fun a => ⟨uuid, a⟩ } u =
      if u = uuid then next else m.membersOf u := by
  apply AccountSet.ext
  intro a
  by_cases hu : u = uuid
  · subst hu
    simp only [TableStore.membersOf, AccountSet.mem_ofList, List.mem_map, List.mem_filter,
      List.mem_append, if_true]
    constructor
    · intro found
      obtain ⟨r, ⟨⟨-, hk⟩ | ⟨b, ⟨hb, -⟩, rfl⟩, hg⟩, rfl⟩ := found
      · have hg : r.group = u := by simpa using hg
        exact AccountSet.contains_iff.1 (by simpa [hg] using hk)
      · exact hb
    · intro ha
      by_cases hc : a ∈ m.membersOf u
      · obtain ⟨r, hr, hg, rfl⟩ := mem_membersOf.1 hc
        exact ⟨r, ⟨.inl ⟨hr, by simp [AccountSet.contains_iff.2 ha]⟩, by simp [hg]⟩, rfl⟩
      · refine ⟨⟨u, a⟩, ⟨.inr ⟨a, ⟨ha, ?_⟩, rfl⟩, by simp⟩, rfl⟩
        simpa [TableStore.membersOf, ← Bool.not_eq_true, AccountSet.contains_iff] using hc
  · rw [if_neg hu, mem_membersOf (t := m)]
    simp only [TableStore.membersOf, AccountSet.mem_ofList, List.mem_map, List.mem_filter,
      List.mem_append]
    constructor
    · intro found
      obtain ⟨r, ⟨⟨hr, -⟩ | ⟨b, -, rfl⟩, hg⟩, rfl⟩ := found
      · exact ⟨r, hr, by simpa using hg, rfl⟩
      · have hg : uuid = u := by simpa using hg
        exact absurd hg.symm hu
    · intro found
      obtain ⟨r, hr, rfl, rfl⟩ := found
      exact ⟨r, ⟨.inl ⟨hr, by simp [hu]⟩, by simp⟩, rfl⟩

theorem updateMembers_eq_ok {s t : Store} {uuid : Uuid} {modify : AccountSet → AccountSet}
    {g : Group} (h : s.updateMembers uuid modify = .ok (g, t)) :
    t.groups = s.groups.map (modified uuid modify) ∧ t.accounts = s.accounts ∧
      t.changes = s.changes ∧ t.counter? = s.counter? := by
  cases s with
  | memory m =>
    obtain ⟨m', hm, rfl⟩ := ofMemory_eq_ok.1 h
    unfold MemoryStore.updateMembers at hm
    split at hm
    · simp at hm
    · cases hm
      exact ⟨rfl, rfl, rfl, rfl⟩
  | tables m =>
    obtain ⟨m', hm, rfl⟩ := ofTables_eq_ok.1 h
    unfold TableStore.updateMembers at hm
    split at hm
    · simp at hm
    · dsimp only at hm
      split at hm
      · cases hm
        refine ⟨?_, rfl, rfl, rfl⟩
        simp only [groups, List.map_map]
        apply List.map_congr_left
        intro r _
        simp only [Function.comp_apply, TableStore.load, membersOf_rewritten, modified]
        split <;> simp_all
      · simp at hm

/-- A modification that shows in no group leaves the whole store as it was. -/
theorem eq_of_updateMembers {s t : Store} {uuid : Uuid} {modify : AccountSet → AccountSet}
    {g : Group} (h : s.updateMembers uuid modify = .ok (g, t)) (hg : t.groups = s.groups) :
    t = s := by
  cases s with
  | memory m =>
    obtain ⟨m', hm, rfl⟩ := ofMemory_eq_ok.1 h
    unfold MemoryStore.updateMembers at hm
    split at hm
    · simp at hm
    · cases hm
      exact congrArg (fun gs => Store.memory { m with groups := gs }) hg
  | tables m =>
    obtain ⟨m', hm, rfl⟩ := ofTables_eq_ok.1 h
    unfold TableStore.updateMembers at hm
    split at hm
    · simp at hm
    · next he =>
      dsimp only at hm
      split at hm
      · cases hm
        obtain ⟨r, hr, hu⟩ : ∃ r ∈ m.groups, r.uuid = uuid := by
          simpa [TableStore.groupExists] using he
        have hload := List.map_inj_left.1 hg r hr
        have hnext : modify (m.membersOf uuid) = m.membersOf uuid := by
          have hm := congrArg Group.members hload
          simp only [TableStore.load, membersOf_rewritten, hu, if_true] at hm
          exact hm
        have hkept : (m.members.filter fun x => x.group ≠ uuid ||
            (m.membersOf uuid).contains x.account) = m.members := by
          refine List.filter_eq_self.2 fun x hx => ?_
          by_cases hg : x.group = uuid
          · have ha : x.account ∈ m.membersOf uuid := by
              rw [TableStore.membersOf, AccountSet.mem_ofList]
              exact List.mem_map_of_mem (List.mem_filter.2 ⟨hx, by simpa using hg⟩)
            simp [AccountSet.contains_iff.2 ha]
          · simp [hg]
        have hadded : ((m.membersOf uuid).ids.filter fun a =>
            !(m.membersOf uuid).contains a) = [] := by
          refine List.filter_eq_nil_iff.2 fun a ha => ?_
          simp [AccountSet.contains_iff.2 ha]
        simp only [hnext, hkept, hadded, List.map_nil, List.append_nil]
      · simp at hm

end CodeReview.Store
