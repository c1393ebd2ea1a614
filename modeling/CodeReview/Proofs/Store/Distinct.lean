import CodeReview.Proofs.Store.GroupRuns
set_option autoImplicit false

/-!
What no two entries of a store share: accounts differ in their usernames, and groups in their
uuids and names. The numbers of groups differ in tables. In lists they come from a counter of 32
bits, so there they differ until the counter has gone round.
-/
namespace CodeReview.Store

structure Distinct (s : Store) : Prop where
  usernames : s.accounts.Pairwise fun a b => a.username = none ∨ a.username ≠ b.username
  uuids : s.groups.Pairwise fun g h => g.uuid ≠ h.uuid
  names : s.groups.Pairwise fun g h => g.name ≠ h.name
  rows : s.inLists = false → s.groups.Pairwise fun g h => g.id ≠ h.id

/-- Entries that differ in a key are one where the key is the same. -/
theorem eq_of_distinct {α β : Type} [DecidableEq β] {key : α → β} {l : List α}
    (distinct : l.Pairwise fun a b => key a ≠ key b) {a b : α} (ha : a ∈ l) (hb : b ∈ l)
    (same : key a = key b) : a = b := by
  have first := find?_of_distinct distinct ha
  rw [same, find?_of_distinct distinct hb] at first
  exact (Option.some.inj first).symm

variable {s t : Store} {α : Type}

/-- A username is given to an account only if no account has it. -/
theorem username_of_createAccount {n : NewAccount} {a : Account}
    (h : s.createAccount n = .ok (a, t)) :
    ∀ b ∈ s.accounts, b.username = none ∨ b.username ≠ a.username := by
  have same : a.username = n.username := by rw [(createAccount_eq_ok h).1, NewAccount.withId]
  have free : n.username.filter (fun name => s.accounts.any fun b => b.username = some name) =
      none := by
    cases s with
    | memory m =>
      obtain ⟨m', hm, rfl⟩ := ofMemory_eq_ok.1 h
      unfold MemoryStore.createAccount at hm
      split at hm
      · simp at hm
      · next free => exact free
    | tables m =>
      obtain ⟨m', hm, rfl⟩ := ofTables_eq_ok.1 h
      unfold TableStore.createAccount at hm
      split at hm
      · simp at hm
      · next free => exact free
  intro b hb
  rw [same]
  cases named : b.username with
  | none => exact .inl rfl
  | some name =>
    right
    intro taken
    rw [← taken, Option.filter_some_eq_none] at free
    exact free (List.any_eq_true.2 ⟨b, hb, by simpa using named⟩)

theorem created_eq_ok {uuid : Uuid} {n : NewGroup} {g : Group} (h : s.created uuid n = .ok g) :
    (∀ h ∈ s.groups, h.name ≠ g.name) ∧ g.uuid = uuid ∧ s.nextGroup = .ok g.id.number := by
  unfold created refusal? at h
  cases named : s.groups.find? fun g => g.name = n.name with
  | some o =>
    rw [named] at h
    cases h
  | none =>
    rw [named] at h
    have free : ∀ h ∈ s.groups, h.name ≠ n.name := by simpa using named
    dsimp only at h
    split at h
    · cases h
    · cases next : s.nextGroup with
      | error e =>
        rw [next] at h
        cases h
      | ok k =>
        rw [next] at h
        cases h
        exact ⟨free, rfl, rfl⟩

/-- A new group comes last. In lists it replaces a group that had its uuid. -/
theorem groups_of_createGroup (tidy : s.Tidy) {uuid : Uuid} {n : NewGroup} {g : Group}
    (h : s.createGroup uuid n = .ok (g, t)) :
    t.groups = (s.groups.filter fun o => o.uuid ≠ uuid) ++ [g] ∧
      (∀ o ∈ s.groups, o.name ≠ g.name) ∧ g.uuid = uuid ∧ s.nextGroup = .ok g.id.number := by
  cases s with
  | memory m =>
    obtain ⟨m', hm, rfl⟩ := ofMemory_eq_ok.1 h
    unfold MemoryStore.createGroup at hm
    split at hm
    · simp at hm
    · next free =>
      have free : ∀ o ∈ m.groups, o.name ≠ n.name := by
        simpa [MemoryStore.findGroupByName] using free
      split at hm
      · simp at hm
      · cases hm
        exact ⟨rfl, free, rfl, rfl⟩
  | tables m =>
    have fresh := fresh_of_createGroup h
    have result := createGroup_tables tidy fresh n
    rw [h] at result
    split at result
    · cases result
    · next made =>
      obtain ⟨t', e, groups, -⟩ := result
      cases e
      rw [groups, List.filter_eq_self.2 fun o there => by simpa using fresh o there]
      exact ⟨rfl, created_eq_ok made⟩

/-- What a write does to the groups. -/
theorem Write.groups_cases (h : s.Write t) (tidy : s.Tidy) :
    t.groups = s.groups ∨ (∃ uuid n g, s.createGroup uuid n = .ok (g, t)) ∨
      (∃ uuid modify, t.groups = s.groups.map (modified uuid modify)) ∨
      ∃ uuid, t.groups = s.groups.filter fun g => g.uuid ≠ uuid := by
  cases h with
  | insertChange h => exact .inl (insertChange_eq_ok h).2.1
  | updateChange h => exact .inl (updateChange_eq_ok h).2.1
  | createAccount h => exact .inl (createAccount_eq_ok h).2.2.1
  | setActive h => exact .inl (setActive_eq_ok h).2.1
  | createGroup h => exact .inr (.inl ⟨_, _, _, h⟩)
  | updateMembers h => exact .inr (.inr (.inl ⟨_, _, (updateMembers_eq_ok h).1⟩))
  | @deleteGroup uuid _ _ h =>
    cases found : s.groups.find? fun g => g.uuid = uuid with
    | none =>
      rw [deleteGroup_unknown found] at h
      cases h
    | some g =>
      obtain ⟨t', e, groups, -⟩ := deleteGroup_known tidy found
      rw [e] at h
      cases h
      exact .inr (.inr (.inr ⟨uuid, groups⟩))

/-- A key stays different from group to group when a new group has a new one. -/
theorem Write.keeps_apart (h : s.Write t) (tidy : s.Tidy) {key : Group → α}
    (kept : ∀ uuid modify g, key (modified uuid modify g) = key g)
    (new : ∀ uuid n g, s.createGroup uuid n = .ok (g, t) →
      ∀ o ∈ s.groups, o.uuid ≠ uuid → key o ≠ key g)
    (apart : s.groups.Pairwise fun g h => key g ≠ key h) :
    t.groups.Pairwise fun g h => key g ≠ key h := by
  rcases h.groups_cases tidy with same | ⟨uuid, n, g, made⟩ | ⟨uuid, modify, changed⟩ | ⟨uuid, left⟩
  · rwa [same]
  · rw [(groups_of_createGroup tidy made).1, List.pairwise_append]
    refine ⟨apart.filter _, List.pairwise_singleton _ _, fun o there g' last => ?_⟩
    obtain rfl := List.mem_singleton.1 last
    obtain ⟨there, other⟩ := List.mem_filter.1 there
    exact new uuid n g' made o there (by simpa using other)
  · rw [changed, List.pairwise_map]
    simpa only [kept] using apart
  · rw [left]
    exact apart.filter _

@[simp] theorem modified_uuid (uuid : Uuid) (modify : AccountSet → AccountSet) (g : Group) :
    (modified uuid modify g).uuid = g.uuid := by
  unfold modified
  split <;> rfl

@[simp] theorem modified_name (uuid : Uuid) (modify : AccountSet → AccountSet) (g : Group) :
    (modified uuid modify g).name = g.name := by
  unfold modified
  split <;> rfl

@[simp] theorem modified_id (uuid : Uuid) (modify : AccountSet → AccountSet) (g : Group) :
    (modified uuid modify g).id = g.id := by
  unfold modified
  split <;> rfl

theorem Write.usernames (h : s.Write t)
    (apart : s.accounts.Pairwise fun a b => a.username = none ∨ a.username ≠ b.username) :
    t.accounts.Pairwise fun a b => a.username = none ∨ a.username ≠ b.username := by
  rcases h.accounts_cases with ⟨same, -⟩ | ⟨n, a, made⟩ | ⟨id, active, -, marked⟩
  · rwa [same]
  · rw [(createAccount_eq_ok made).2.1, List.pairwise_append]
    refine ⟨apart, List.pairwise_singleton _ _, fun b there a' last => ?_⟩
    obtain rfl := List.mem_singleton.1 last
    exact username_of_createAccount made b there
  · have names : ∀ a : Account,
        (if a.id = id then { a with active := active } else a).username = a.username := by
      intro a
      split <;> rfl
    rw [marked, List.pairwise_map]
    simpa only [names] using apart

/-- In tables a new number is greater than all that are there. -/
theorem number_of_createGroup_rows (rows : s.inLists = false) {k : UInt32}
    (next : s.nextGroup = .ok k) : ∀ o ∈ s.groups, o.id.number ≠ k := by
  cases s with
  | memory m => cases rows
  | tables m =>
    rintro o there rfl
    have given : o.id.number ∈ (tables m).groupNumbers := List.mem_map.2 ⟨o, there, rfl⟩
    have greater := toNat_lt_nextNumber firstGroup.toNat given
    have same := column32_eq_ok.1 next
    omega

theorem Write.distinct (h : s.Write t) (tidy : s.Tidy) (distinct : s.Distinct) : t.Distinct where
  usernames := h.usernames distinct.usernames
  uuids := by
    refine h.keeps_apart tidy modified_uuid (fun uuid n g made o there other => ?_) distinct.uuids
    rwa [(groups_of_createGroup tidy made).2.2.1]
  names := by
    refine h.keeps_apart tidy modified_name (fun uuid n g made o there other => ?_) distinct.names
    exact (groups_of_createGroup tidy made).2.1 o there
  rows := by
    intro rows
    rw [(h.tidy tidy).2] at rows
    refine h.keeps_apart tidy modified_id (fun uuid n g made o there other same => ?_)
      (distinct.rows rows)
    exact number_of_createGroup_rows rows (groups_of_createGroup tidy made).2.2.2 o there
      (congrArg GroupNumber.number same)

theorem Reachable.distinct (h : s.Reachable) : s.Distinct := by
  induction h with
  | memory => exact ⟨.nil, .nil, .nil, fun _ => .nil⟩
  | tables => exact ⟨.nil, .nil, .nil, fun _ => .nil⟩
  | write hs ht ih => exact ht.distinct hs.tidy ih

/-- A username leads to the one account that has it. -/
theorem Distinct.findByUsername (h : s.Distinct) {a : Account} {name : String}
    (there : a ∈ s.accounts) (named : a.username = some name) :
    s.findByUsername name = some a := by
  rw [findByUsername_eq]
  have apart := h.usernames
  generalize s.accounts = l at there apart
  induction l with
  | nil => cases there
  | cons b l ih =>
    obtain ⟨others, rest⟩ := List.pairwise_cons.1 apart
    rcases List.mem_cons.1 there with rfl | there
    · simp [named]
    · rw [List.find?_cons_of_neg, ih there rest]
      have other := others a there
      rw [named] at other
      rcases other with none | other
      · simp [none]
      · simpa using other

/-- The number of the next group, where a counter keeps it. -/
def groupCounter? : Store → Option UInt32
  | .memory m => some m.nextGroup
  | .tables _ => none

theorem groupCounter?_of_createGroup {uuid : Uuid} {n : NewGroup} {g : Group}
    (h : s.createGroup uuid n = .ok (g, t)) : t.groupCounter? = s.groupCounter?.map (· + 1) := by
  cases s with
  | memory m =>
    obtain ⟨m', hm, rfl⟩ := ofMemory_eq_ok.1 h
    unfold MemoryStore.createGroup at hm
    split at hm
    · simp at hm
    · split at hm
      · simp at hm
      · cases hm
        rfl
  | tables m =>
    obtain ⟨m', -, rfl⟩ := ofTables_eq_ok.1 h
    rfl

theorem Write.groupCounter?_cases (h : s.Write t) :
    t.groupCounter? = s.groupCounter? ∨ ∃ uuid n g, s.createGroup uuid n = .ok (g, t) := by
  cases h with
  | insertChange h =>
    cases s with
    | memory m =>
      obtain ⟨m', hm, rfl⟩ := ofMemory_eq_ok.1 h
      unfold MemoryStore.insertChange at hm
      split at hm
      · simp at hm
      · simp only [Except.ok.injEq, Prod.mk.injEq] at hm
        obtain ⟨-, rfl⟩ := hm
        exact .inl rfl
    | tables m =>
      obtain ⟨m', -, rfl⟩ := ofTables_eq_ok.1 h
      exact .inl rfl
  | updateChange h =>
    cases s with
    | memory m =>
      obtain ⟨m', hm, rfl⟩ := ofMemory_eq_ok.1 h
      unfold MemoryStore.updateChange at hm
      split at hm
      · simp at hm
      · simp only [Except.ok.injEq, Prod.mk.injEq] at hm
        obtain ⟨-, rfl⟩ := hm
        exact .inl rfl
    | tables m =>
      obtain ⟨m', -, rfl⟩ := ofTables_eq_ok.1 h
      exact .inl rfl
  | createAccount h =>
    cases s with
    | memory m =>
      obtain ⟨m', hm, rfl⟩ := ofMemory_eq_ok.1 h
      unfold MemoryStore.createAccount at hm
      split at hm
      · simp at hm
      · split at hm
        · simp at hm
        · cases hm
          exact .inl rfl
    | tables m =>
      obtain ⟨m', -, rfl⟩ := ofTables_eq_ok.1 h
      exact .inl rfl
  | setActive h =>
    cases s with
    | memory m =>
      obtain ⟨m', hm, rfl⟩ := ofMemory_eq_ok.1 h
      unfold MemoryStore.setActive at hm
      split at hm
      · simp at hm
      · cases hm
        exact .inl rfl
    | tables m =>
      obtain ⟨m', -, rfl⟩ := ofTables_eq_ok.1 h
      exact .inl rfl
  | createGroup h => exact .inr ⟨_, _, _, h⟩
  | updateMembers h =>
    cases s with
    | memory m =>
      obtain ⟨m', hm, rfl⟩ := ofMemory_eq_ok.1 h
      unfold MemoryStore.updateMembers at hm
      split at hm
      · simp at hm
      · cases hm
        exact .inl rfl
    | tables m =>
      obtain ⟨m', -, rfl⟩ := ofTables_eq_ok.1 h
      exact .inl rfl
  | deleteGroup h =>
    cases s with
    | memory m =>
      obtain ⟨m', hm, rfl⟩ := ofMemory_eq_ok.1 h
      unfold MemoryStore.deleteGroup at hm
      split at hm
      · simp at hm
      · cases hm
        exact .inl rfl
    | tables m =>
      obtain ⟨m', -, rfl⟩ := ofTables_eq_ok.1 h
      exact .inl rfl

section
variable {m : MemoryStore} {uuid : Uuid} {name : String}

/-- A group that comes and goes moves the counter of lists on, and nothing else stays of it. -/
theorem Reachable.counts_on (h : Reachable (.memory m))
    (fresh : ∀ g ∈ m.groups, g.uuid ≠ uuid ∧ g.name ≠ name) :
    Reachable (.memory { m with nextGroup := m.nextGroup + 1 }) := by
  let new : NewGroup := ⟨name, none, none, .empty, false, 0⟩
  let made : Group := new.withIds uuid ⟨m.nextGroup⟩
  let more : MemoryStore :=
    { m with groups := m.groups ++ [made], nextGroup := m.nextGroup + 1 }
  have others : (m.groups.filter fun g => g.uuid ≠ uuid) = m.groups :=
    List.filter_eq_self.2 fun g there => by simpa using (fresh g there).1
  have created : m.createGroup uuid new = .ok (made, more) := by
    have free : m.findGroupByName name = none :=
      List.find?_eq_none.2 fun g there => by simpa using (fresh g there).2
    rw [MemoryStore.createGroup, free]
    dsimp only [new, Option.filter_none]
    rw [others]
  have deleted : more.deleteGroup uuid = .ok ((), { m with nextGroup := m.nextGroup + 1 }) := by
    have there : more.group? uuid = some made := by
      rw [MemoryStore.group?, List.find?_append, List.find?_eq_none.2 fun g there => by
        simpa using (fresh g there).1, Option.none_or]
      exact List.find?_cons_of_pos (decide_eq_true rfl)
    have gone : (more.groups.filter fun g => g.uuid ≠ uuid) = m.groups := by
      rw [List.filter_append, others, List.filter_cons_of_neg (by simp [made, NewGroup.withIds]),
        List.filter_nil, List.append_nil]
    rw [MemoryStore.deleteGroup, there]
    dsimp only
    rw [gone]
  exact (h.write (.createGroup (ofMemory_eq_ok.2 ⟨more, created, rfl⟩))).write
    (.deleteGroup (ofMemory_eq_ok.2 ⟨_, deleted, rfl⟩))

/-- The counter of lists can come to any number while some uuid and some name are free. -/
theorem Reachable.counts_to (h : Reachable (.memory m))
    (fresh : ∀ g ∈ m.groups, g.uuid ≠ uuid ∧ g.name ≠ name) (n : UInt32) :
    Reachable (.memory { m with nextGroup := n }) := by
  have on (k : Nat) : Reachable (.memory { m with nextGroup := m.nextGroup + UInt32.ofNat k }) := by
    induction k with
    | zero => simpa using h
    | succ k ih =>
      have next := ih.counts_on fresh
      rwa [UInt32.ofNat_add, ← UInt32.add_assoc]
  have there := on (n - m.nextGroup).toNat
  rwa [UInt32.ofNat_toNat, UInt32.add_comm, UInt32.sub_add_cancel] at there

end

/-- A store that writes lead to, with the number of those that made a group. -/
inductive Founded : Nat → Store → Prop where
  | memory : Founded 0 (.memory .empty)
  | tables : Founded 0 (.tables .empty)
  | createGroup {k : Nat} {s t : Store} {uuid : Uuid} {n : NewGroup} {g : Group}
    (hs : Founded k s) (made : s.createGroup uuid n = .ok (g, t)) : Founded (k + 1) t
  | write {k : Nat} {s t : Store} (hs : Founded k s) (ht : s.Write t)
    (other : ∀ uuid n g, s.createGroup uuid n ≠ .ok (g, t)) : Founded k t

theorem Founded.reachable {k : Nat} (h : Founded k s) : s.Reachable := by
  induction h with
  | memory => exact .memory
  | tables => exact .tables
  | createGroup _ made ih => exact ih.write (.createGroup made)
  | write _ ht _ ih => exact ih.write ht

/-- Every store that writes lead to has such a number. -/
theorem Reachable.founded (h : s.Reachable) : ∃ k, Founded k s := by
  induction h with
  | memory => exact ⟨0, .memory⟩
  | tables => exact ⟨0, .tables⟩
  | @write s t _ ht ih =>
    obtain ⟨k, founded⟩ := ih
    by_cases made : ∃ uuid n g, s.createGroup uuid n = .ok (g, t)
    · obtain ⟨uuid, n, g, made⟩ := made
      exact ⟨k + 1, founded.createGroup made⟩
    · exact ⟨k, founded.write ht fun uuid n g h => made ⟨uuid, n, g, h⟩⟩

/-- The counter is past all groups as long as it has not gone round. -/
theorem Founded.groupCounter? {k : Nat} (h : Founded k s) (few : k + 1 < UInt32.size) :
    ∀ n ∈ s.groupCounter?, n.toNat = k + 1 ∧ ∀ g ∈ s.groups, g.id.number < n := by
  induction h with
  | memory =>
    rintro n ⟨⟩
    exact ⟨rfl, fun g there => absurd there List.not_mem_nil⟩
  | tables => rintro n ⟨⟩
  | @createGroup k s t uuid new g hs made ih =>
    intro n hn
    obtain ⟨groups, -, -, next⟩ := groups_of_createGroup hs.reachable.tidy made
    rw [groupCounter?_of_createGroup made] at hn
    obtain ⟨m, hm, rfl⟩ := Option.map_eq_some_iff.1 hn
    obtain ⟨count, below⟩ := ih (by omega) m hm
    have same : m = g.id.number := by
      cases s with
      | memory s => exact (Option.some.inj hm).symm.trans (Except.ok.inj next)
      | tables s => cases hm
    have step : (m + 1).toNat = m.toNat + 1 := by
      simp only [UInt32.size] at few
      simp only [UInt32.toNat_add, UInt32.reduceToNat]
      omega
    refine ⟨by omega, fun o there => ?_⟩
    rw [UInt32.lt_iff_toNat_lt, step]
    rw [groups, List.mem_append, List.mem_singleton] at there
    rcases there with there | rfl
    · have := UInt32.lt_iff_toNat_lt.1 (below o (List.mem_of_mem_filter there))
      omega
    · rw [same]
      omega
  | @write k s t hs ht other ih =>
    intro n hn
    have made : ¬∃ uuid n g, s.createGroup uuid n = .ok (g, t) := by
      rintro ⟨uuid, n, g, made⟩
      exact other uuid n g made
    rw [ht.groupCounter?_cases.resolve_right made] at hn
    obtain ⟨count, below⟩ := ih few n hn
    refine ⟨count, fun g there => ?_⟩
    rcases ht.groups_cases hs.reachable.tidy with
      same | new | ⟨uuid, modify, changed⟩ | ⟨uuid, left⟩
    · exact below g (same ▸ there)
    · exact absurd new made
    · rw [changed] at there
      obtain ⟨o, old, rfl⟩ := List.mem_map.1 there
      rw [modified_id]
      exact below o old
    · rw [left] at there
      exact below g (List.mem_of_mem_filter there)

/-- A number is one group's number, in lists for as long as the counter has not gone round. -/
theorem Founded.numbers {k : Nat} (h : Founded k s) (few : s.inLists = true → k < UInt32.size) :
    s.groups.Pairwise fun g h => g.id ≠ h.id := by
  cases kind : s.inLists with
  | false => exact h.reachable.distinct.rows kind
  | true =>
    replace few := few kind
    clear kind
    induction h with
    | memory => exact .nil
    | tables => exact .nil
    | @createGroup k s t uuid n g hs made ih =>
      refine (Write.createGroup made).keeps_apart hs.reachable.tidy modified_id
        (fun uuid n g made o there _ same => ?_) (ih (by omega))
      have next := (groups_of_createGroup hs.reachable.tidy made).2.2.2
      rw [← same] at next
      cases s with
      | memory m =>
        have below := (hs.groupCounter? few m.nextGroup rfl).2 o there
        rw [Except.ok.inj next] at below
        exact UInt32.lt_irrefl _ below
      | tables m => exact number_of_createGroup_rows rfl next o there rfl
    | write hs ht other ih =>
      exact ht.keeps_apart hs.reachable.tidy modified_id
        (fun uuid n g made => absurd made (other uuid n g)) (ih few)

end CodeReview.Store
