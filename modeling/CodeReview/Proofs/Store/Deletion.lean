import CodeReview.Proofs.Store.Distinct
import CodeReview.Proofs.Ungrouped
set_option autoImplicit false

/-!
A store without one of its groups, as deleting the group leaves it. Calls about accounts, and those
that change another group, come to the same there, and the store they leave lacks the same group.
-/
namespace CodeReview.Store

/-- The store without the group of a uuid. -/
def without (s : Store) (u : Uuid) : Store :=
  match s with
  | .memory m => .memory { m with groups := m.groups.filter fun g => g.uuid ≠ u }
  | .tables t => .tables { t with
      groups := t.groups.filter fun r => r.uuid ≠ u,
      members := t.members.filter fun m => m.group ≠ u }

variable {s t : Store} {u v : Uuid}

@[simp] theorem accounts_without (s : Store) (u : Uuid) : (s.without u).accounts = s.accounts := by
  cases s <;> rfl

@[simp] theorem changes_without (s : Store) (u : Uuid) : (s.without u).changes = s.changes := by
  cases s <;> rfl

theorem groups_without (s : Store) (u : Uuid) :
    (s.without u).groups = s.groups.filter fun g => g.uuid ≠ u := by
  cases s with
  | memory m => rfl
  | tables t =>
    rw [without, groups, groups, List.filter_map]
    apply List.map_congr_left
    intro r hr
    have ne : r.uuid ≠ u := by simpa using (List.mem_filter.1 hr).2
    rw [TableStore.load, membersOf_deleted ne, TableStore.load]

theorem mem_groups_without {g : Group} :
    g ∈ (s.without u).groups ↔ g ∈ s.groups ∧ g.uuid ≠ u := by
  simp [groups_without]

/-- Deleting a group leaves the store without it. -/
theorem deleteGroup_eq_ok_iff :
    s.deleteGroup u = .ok ((), t) ↔ (∃ g ∈ s.groups, g.uuid = u) ∧ t = s.without u := by
  cases found : s.groups.find? fun g => g.uuid = u with
  | none =>
    have absent : ¬∃ g ∈ s.groups, g.uuid = u := by simpa using found
    simp [deleteGroup_unknown found, absent]
  | some g =>
    have there : ∃ g ∈ s.groups, g.uuid = u :=
      ⟨g, List.mem_of_find?_eq_some found, by simpa using List.find?_some found⟩
    have deleted : s.deleteGroup u = .ok ((), s.without u) := by
      cases s with
      | memory m =>
        have here : m.group? u = some g := found
        rw [deleteGroup, MemoryStore.deleteGroup, here]
        rfl
      | tables t =>
        rw [deleteGroup, TableStore.deleteGroup, groupExists_of_find? found]
        rfl
    rw [deleted, Except.ok.injEq, Prod.mk.injEq]
    exact ⟨fun same => ⟨there, same.2.symm⟩, fun same => ⟨rfl, same.2.symm⟩⟩

/-- What a writing call comes to, told for the store without the group. -/
def lacking {α : Type} (u : Uuid) (r : Except StoreError (α × Store)) :
    Except StoreError (α × Store) :=
  r.map fun p => (p.1, p.2.without u)

theorem createAccount_without (s : Store) (u : Uuid) (n : NewAccount) :
    (s.without u).createAccount n = lacking u (s.createAccount n) := by
  cases s with
  | memory m =>
    have taken : MemoryStore.usernameTaken { m with
        groups := m.groups.filter fun g => g.uuid ≠ u } = m.usernameTaken := rfl
    unfold createAccount without MemoryStore.createAccount
    dsimp only
    rw [taken]
    cases n.username.filter m.usernameTaken with
    | some name => rfl
    | none =>
      dsimp only
      split <;> rfl
  | tables t =>
    have taken : TableStore.usernameTaken { t with
        groups := t.groups.filter fun r => r.uuid ≠ u,
        members := t.members.filter fun m => m.group ≠ u } = t.usernameTaken := rfl
    unfold createAccount without TableStore.createAccount
    dsimp only
    rw [taken]
    cases n.username.filter t.usernameTaken with
    | some name => rfl
    | none =>
      dsimp only
      cases column32 (nextNumber firstAccount.toNat (t.accounts.map fun a => a.id.number)) <;> rfl

theorem find?_filter_of_imp {α : Type} {p q : α → Bool} {l : List α}
    (h : ∀ a ∈ l, q a = true → p a = true) : (l.filter p).find? q = l.find? q := by
  induction l with
  | nil => rfl
  | cons a l ih =>
    have rest := ih fun b hb => h b (List.mem_cons_of_mem a hb)
    cases hq : q a with
    | true => simp [h a List.mem_cons_self hq, hq]
    | false =>
      rw [List.find?_cons_of_neg (by simp [hq]), ← rest]
      cases hp : p a with
      | true => rw [List.filter_cons_of_pos hp, List.find?_cons_of_neg (by simp [hq])]
      | false => rw [List.filter_cons_of_neg (by simp [hp])]

theorem group?_without (ne : v ≠ u) (t : TableStore) :
    TableStore.group? { t with
      groups := t.groups.filter fun r => r.uuid ≠ u,
      members := t.members.filter fun m => m.group ≠ u } v = t.group? v := by
  have row : (t.groups.filter fun r => r.uuid ≠ u).find? (fun r => r.uuid = v) =
      t.groups.find? fun r => r.uuid = v :=
    find?_filter_of_imp (by simp +contextual [ne])
  unfold TableStore.group?
  rw [row]
  cases found : t.groups.find? fun r => r.uuid = v with
  | none => rfl
  | some r =>
    have here : r.uuid = v := by simpa using List.find?_some found
    rw [Option.map_some, Option.map_some, TableStore.load, membersOf_deleted (here ▸ ne)]
    rfl

/-- Tables that write the members of a group drop and add rows of that group alone. -/
theorem updateMembers_rows_without (ne : v ≠ u) (t : TableStore)
    (modify : AccountSet → AccountSet) :
    ((tables t).without u).updateMembers v modify =
      lacking u ((tables t).updateMembers v modify) := by
  have there : TableStore.groupExists { t with
      groups := t.groups.filter fun r => r.uuid ≠ u,
      members := t.members.filter fun m => m.group ≠ u } v = t.groupExists v := by
    rw [Bool.eq_iff_iff, groupExists_iff, groupExists_iff]
    show (∃ g ∈ ((tables t).without u).groups, g.uuid = v) ↔ _
    simp only [mem_groups_without, and_assoc]
    exact exists_congr fun g => and_congr_right fun _ =>
      ⟨fun h => h.2, fun h => ⟨fun e => ne (h.symm.trans e), h⟩⟩
  have current : TableStore.membersOf { t with
      groups := t.groups.filter fun r => r.uuid ≠ u,
      members := t.members.filter fun m => m.group ≠ u } v = t.membersOf v :=
    membersOf_deleted ne _
  unfold updateMembers without TableStore.updateMembers
  dsimp only
  rw [there, current]
  cases t.groupExists v with
  | false => rfl
  | true =>
    simp only [Bool.not_true, if_neg Bool.false_ne_true]
    generalize ha : ((modify (t.membersOf v)).ids.filter fun a =>
      !(t.membersOf v).contains a).map (fun a => (⟨v, a⟩ : MemberRow)) = added
    have rows : (t.members.filter fun m => m.group ≠ u).filter
          (fun m => m.group ≠ v || (modify (t.membersOf v)).contains m.account) ++ added =
        ((t.members.filter fun m => m.group ≠ v ||
          (modify (t.membersOf v)).contains m.account) ++ added).filter fun m => m.group ≠ u := by
      have stay : (added.filter fun m => m.group ≠ u) = added := by
        rw [List.filter_eq_self, ← ha]
        intro m hm
        obtain ⟨a, -, rfl⟩ := List.mem_map.1 hm
        simpa using ne
      rw [List.filter_append, stay, List.filter_filter, List.filter_filter]
      simp only [Bool.and_comm]
    rw [rows]
    have read := group?_without ne { t with members := (t.members.filter fun m => m.group ≠ v ||
      (modify (t.membersOf v)).contains m.account) ++ added }
    dsimp only at read
    rw [read]
    cases TableStore.group? { t with members := (t.members.filter fun m => m.group ≠ v ||
      (modify (t.membersOf v)).contains m.account) ++ added } v <;> rfl

theorem updateMembers_without (ne : v ≠ u) (s : Store) (modify : AccountSet → AccountSet) :
    (s.without u).updateMembers v modify = lacking u (s.updateMembers v modify) := by
  cases s with
  | tables t => exact updateMembers_rows_without ne t modify
  | memory m =>
    have same : MemoryStore.group? { m with
        groups := m.groups.filter fun g => g.uuid ≠ u } v = m.group? v :=
      find?_filter_of_imp (by simp +contextual [ne])
    have kept : ((m.groups.filter fun g => g.uuid ≠ u).map (modified v modify)) =
        (m.groups.map (modified v modify)).filter fun g => g.uuid ≠ u := by
      rw [List.filter_map]
      congr 1
      exact List.filter_congr fun g _ => by rw [Function.comp_apply, modified_uuid]
    unfold updateMembers without MemoryStore.updateMembers
    dsimp only
    rw [same]
    cases m.group? v with
    | none => rfl
    | some g =>
      exact congrArg (fun gs => Except.ok (_, Store.memory { m with groups := gs })) kept

/-- A write to another group that shows nowhere else has changed nothing. -/
theorem eq_of_updateMembers_without (ne : v ≠ u) {modify : AccountSet → AccountSet} {g : Group}
    (h : s.updateMembers v modify = .ok (g, t)) (same : t.without u = s.without u) : t = s := by
  have groups := (updateMembers_eq_ok h).1
  refine eq_of_updateMembers h ?_
  have others : ∀ o ∈ s.groups, modified v modify o = o := by
    intro o there
    by_cases here : o.uuid = u
    · exact if_neg (here ▸ ne.symm)
    · have left := congrArg Store.groups same
      rw [groups_without, groups_without, groups, List.filter_map,
        List.filter_congr fun g _ => by rw [Function.comp_apply, modified_uuid]] at left
      exact List.map_inj_left.1 (left.trans (List.map_id _).symm) o
        (List.mem_filter.2 ⟨there, by simpa using here⟩)
  rw [groups, List.map_congr_left others, List.map_id']

end CodeReview.Store
