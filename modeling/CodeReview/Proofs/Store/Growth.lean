import CodeReview.Proofs.Account.Provisioning
import CodeReview.Proofs.Store.Groups
set_option autoImplicit false

/-!
Stores that grow: accounts are added after those that are there, and groups gain members. Nothing
that was found by its uuid, number or name is lost.
-/
namespace CodeReview

/-- The same group with the same members and perhaps more. -/
structure Group.Widens (g h : Group) : Prop where
  uuid : h.uuid = g.uuid
  id : h.id = g.id
  name : h.name = g.name
  owner : h.owner = g.owner
  visibleToAll : h.visibleToAll = g.visibleToAll
  members : ∀ a, g.hasMember a = true → h.hasMember a = true

theorem Group.Widens.refl (g : Group) : g.Widens g :=
  ⟨rfl, rfl, rfl, rfl, rfl, fun _ h => h⟩

theorem Group.Widens.trans {g h k : Group} (left : g.Widens h) (right : h.Widens k) : g.Widens k :=
  ⟨right.uuid.trans left.uuid, right.id.trans left.id, right.name.trans left.name,
    right.owner.trans left.owner, right.visibleToAll.trans left.visibleToAll,
    fun a ha => right.members a (left.members a ha)⟩

namespace Store

theorem widens_modified (uuid : Uuid) (ids : List AccountId) (g : Group) :
    g.Widens (modified uuid (fun m => m.insertAll ids) g) := by
  unfold modified
  split
  · refine ⟨rfl, rfl, rfl, rfl, rfl, fun a ha => ?_⟩
    have member := AccountSet.contains_iff.1 ha
    exact AccountSet.contains_iff.2 (AccountSet.mem_insertAll.2 (.inr member))
  · exact .refl g

/-- The later store has accounts added at the end and wider groups in the same places. -/
structure Grows (widen : Group → Group) (s t : Store) : Prop where
  kind : t.inLists = s.inLists
  accounts : ∃ more, t.accounts = s.accounts ++ more
  widens : ∀ g : Group, g.Widens (widen g)
  groups : t.groups = s.groups.map widen

namespace Grows
variable {widen more : Group → Group} {s t u : Store}

theorem refl (s : Store) : s.Grows id s :=
  ⟨rfl, ⟨[], by simp⟩, .refl, by simp⟩

theorem trans (h : s.Grows widen t) (k : t.Grows more u) : s.Grows (more ∘ widen) u where
  kind := k.kind.trans h.kind
  accounts := by
    obtain ⟨first, hfirst⟩ := h.accounts
    obtain ⟨second, hsecond⟩ := k.accounts
    exact ⟨first ++ second, by rw [hsecond, hfirst, List.append_assoc]⟩
  widens g := (h.widens g).trans (k.widens (widen g))
  groups := by rw [k.groups, h.groups, List.map_map]

theorem find?_group (h : s.Grows widen t) {p : Group → Bool}
    (same : ∀ g k : Group, g.Widens k → p k = p g) :
    t.groups.find? p = (s.groups.find? p).map widen := by
  rw [h.groups, List.find?_map]
  congr 2
  funext g
  exact same g (widen g) (h.widens g)

theorem findByUsername (h : s.Grows widen t) {name : String} {a : Account}
    (ha : s.findByUsername name = some a) : t.findByUsername name = some a := by
  obtain ⟨more, e⟩ := h.accounts
  rw [findByUsername_eq] at ha ⊢
  rw [e, List.find?_append, ha, Option.some_or]

end Grows

theorem Creates.grows {s t : Store} {created : List Account} (h : s.Creates created t) :
    s.Grows id t := by
  have kind : t.inLists = s.inLists := by
    induction h with
    | nil => rfl
    | snoc _ hn ih => exact (createAccount_groupRows hn).1.trans ih
  exact ⟨kind, ⟨created, h.accounts⟩, .refl, by rw [h.groups, List.map_id]⟩

/-- Who was not found by a name is found after an account is created, if it has the name. -/
theorem findByUsername_createAccount {s t : Store} {n : NewAccount} {a : Account} {name : String}
    (absent : s.findByUsername name = none) (h : s.createAccount n = .ok (a, t)) :
    t.findByUsername name = if n.username = some name then some a else none := by
  obtain ⟨contents, accounts, -, -⟩ := createAccount_eq_ok h
  have username : a.username = n.username := by rw [contents, NewAccount.withId]
  rw [findByUsername_eq] at absent ⊢
  rw [accounts, List.find?_append, absent, Option.none_or, List.find?_singleton, username]
  simp

theorem grows_of_updateMembers {s t : Store} {uuid : Uuid} {ids : List AccountId} {g : Group}
    (hs : s.Tidy) (h : s.updateMembers uuid (fun m => m.insertAll ids) = .ok (g, t)) :
    s.Grows (modified uuid fun m => m.insertAll ids) t := by
  obtain ⟨groups, accounts, -⟩ := updateMembers_eq_ok h
  exact ⟨((Write.updateMembers h).tidy hs).2, ⟨[], by rw [accounts, List.append_nil]⟩,
    widens_modified uuid ids, groups⟩

end Store

end CodeReview
