import CodeReview.Proofs.Account.Matching
import CodeReview.Proofs.Group.Access
set_option autoImplicit false

/-!
Opening a group of the store when no call fails. What a text opens and what the caller may do
with it is read off the store, and a caller for whom a group was opened can open it later as
well: members are only gained.
-/
namespace CodeReview
open Act

namespace Store

/-- The group of the store that a text names. -/
def groupNamed (s : Store) (id : String) : Option Group :=
  match Uuid.parse? id with
  | some uuid => s.groups.find? fun g => g.uuid = uuid
  | none =>
    match GroupNumber.parse? id with
    | none => s.groups.find? fun g => g.name = id
    | some n => (s.groups.find? fun g => g.id = n).or (s.groups.find? fun g => g.name = id)

def owns (s : Store) (settings : Settings) (viewer : AccountId) (g : Group) : Bool :=
  s.administers settings.adminGroup viewer ||
    if g.owner = g.uuid then g.hasMember viewer
    else (s.groups.find? fun o => o.uuid = g.owner).any fun o => o.hasMember viewer

def accessTo (s : Store) (settings : Settings) (caller : Caller) (g : Group) : GroupAccess :=
  match caller.accountId? with
  | none => ⟨false, false, g.visibleToAll, true⟩
  | some viewer => ⟨s.owns settings viewer g, g.hasMember viewer, g.visibleToAll, true⟩

variable {s t : Store} {widen : Group → Group}

theorem Grows.groupNamed (h : s.Grows widen t) (id : String) :
    t.groupNamed id = (s.groupNamed id).map widen := by
  have byName := h.find?_group (p := fun g => g.name = id) fun g k w => by rw [w.name]
  unfold Store.groupNamed
  cases Uuid.parse? id with
  | some uuid => exact h.find?_group fun g k w => by rw [w.uuid]
  | none =>
    cases GroupNumber.parse? id with
    | none => exact byName
    | some n =>
      have byNumber := h.find?_group (p := fun g => g.id = n) fun g k w => by rw [w.id]
      dsimp only
      rw [byName, byNumber, Option.map_or]

theorem Grows.owns (h : s.Grows widen t) {settings : Settings} {viewer : AccountId} {g : Group}
    (owner : s.owns settings viewer g = true) : t.owns settings viewer (widen g) = true := by
  unfold Store.owns at owner ⊢
  rw [Bool.or_eq_true] at owner ⊢
  refine owner.imp (administers_of_widens h.widens h.groups) fun member => ?_
  rw [(h.widens g).owner, (h.widens g).uuid]
  split at member
  · next self =>
    rw [if_pos self]
    exact (h.widens g).members viewer member
  · next other =>
    rw [if_neg other, h.find?_group fun o k w => by rw [w.uuid]]
    obtain ⟨o, found, inside⟩ := (Option.any_eq_true _ _).1 member
    rw [found]
    exact (h.widens o).members viewer inside

/-- Whatever the caller may do with a group, the caller may do when it has grown. -/
theorem Grows.accessTo (h : s.Grows widen t) (settings : Settings) (caller : Caller) (g : Group) :
    ((s.accessTo settings caller g).isVisible = true →
        (t.accessTo settings caller (widen g)).isVisible = true) ∧
      ((s.accessTo settings caller g).canAddMember = true →
        (t.accessTo settings caller (widen g)).canAddMember = true) := by
  unfold Store.accessTo GroupAccess.isVisible GroupAccess.canAddMember
  rw [(h.widens g).visibleToAll]
  cases caller.accountId? with
  | none => exact ⟨fun visible => visible, fun can => can⟩
  | some viewer =>
    simp only [Bool.or_eq_true, Bool.true_and]
    exact ⟨fun visible => visible.imp (fun either => either.imp_right h.owns)
      ((h.widens g).members viewer), h.owns⟩

end Store

section
variable {settings : Settings} {caller : Caller} {viewer : AccountId} {id : String}
  {widen : Group → Group} {w x : World} {g : Group} {access : GroupAccess}

theorem run_findGroup (hf : w.failing = []) (uuid : Uuid) :
    (findGroup uuid).run w = (.ok (w.store.groups.find? fun g => g.uuid = uuid), w) := by
  rw [findGroup, run_bind, run_outcome, getGroup, run_read_of_works hf, Store.getGroup_eq]
  cases w.store.groups.find? fun g => g.uuid = uuid <;> rfl

theorem run_ownsGroup (hf : w.failing = []) (g : Group) :
    (ownsGroup settings viewer g).run w = (.ok (w.store.owns settings viewer g), w) := by
  rw [ownsGroup, run_bind_of_ok (run_isAdministrator hf settings.adminGroup viewer), Store.owns]
  cases w.store.administers settings.adminGroup viewer with
  | true => rfl
  | false =>
    rw [if_neg Bool.false_ne_true, Bool.false_or]
    split
    · rfl
    · rw [run_bind_of_ok (run_findGroup hf g.owner)]
      rfl

theorem run_groupAccess (hf : w.failing = []) (g : Group) :
    (groupAccess settings caller (.stored g)).run w =
      (.ok (w.store.accessTo settings caller g), w) := by
  rw [groupAccess, Store.accessTo]
  cases caller.accountId? with
  | none => rfl
  | some viewer =>
    dsimp only
    rw [run_bind_of_ok (run_ownsGroup hf g)]
    rfl

theorem run_findGroupByNumberOrName (hf : w.failing = []) (noUuid : Uuid.parse? id = none) :
    (findGroupByNumberOrName id).run w = (.ok (w.store.groupNamed id), w) := by
  have byName := run_mapError_read hf .findGroupByName fun s => s.findGroupByName id
  rw [findGroupByNumberOrName, Store.groupNamed, noUuid]
  cases GroupNumber.parse? id with
  | none =>
    rw [Store.findGroupByName_eq] at byName
    exact byName
  | some n =>
    have byNumber := run_mapError_read hf .findGroupById fun s => s.findGroupById n
    dsimp only
    rw [findGroupById, run_bind_of_ok byNumber, Store.findGroupById_eq]
    rw [Store.findGroupByName_eq] at byName
    cases w.store.groups.find? fun g => g.id = n with
    | none => exact byName
    | some g => rfl

theorem run_findGroupReference (hf : w.failing = [])
    (internal : GroupReference.external? id = none) :
    (findGroupReference id).run w = (.ok ((w.store.groupNamed id).map .stored), w) := by
  rw [findGroupReference, internal]
  cases noUuid : Uuid.parse? id with
  | some uuid =>
    dsimp only
    rw [run_bind_of_ok (run_findGroup hf uuid), Store.groupNamed, noUuid]
    rfl
  | none =>
    dsimp only
    rw [run_bind_of_ok (run_findGroupByNumberOrName hf noUuid)]
    rfl

theorem openGroup_eq_stored (hf : w.failing = []) :
    (openGroup settings caller id).run w = (.ok ⟨.stored g, access⟩, w) ↔
      GroupReference.external? id = none ∧ w.store.groupNamed id = some g ∧
        access = w.store.accessTo settings caller g ∧ access.isVisible = true := by
  constructor
  · intro h
    have internal : GroupReference.external? id = none := by
      obtain ⟨-, named, -⟩ := openGroup_eq_ok h
      cases outside : GroupReference.external? id with
      | none => rfl
      | some reference =>
        rw [findGroupReference, outside] at named
        cases named
        obtain ⟨name, -, hn⟩ := Option.map_eq_some_iff.1 outside
        cases hn
    rw [openGroup, run_bind_of_ok (run_findGroupReference hf internal)] at h
    cases named : w.store.groupNamed id with
    | none =>
      rw [named] at h
      cases h
    | some o =>
      rw [named, Option.map_some] at h
      dsimp only at h
      rw [run_bind_of_ok (run_groupAccess hf o)] at h
      split at h
      · next visible =>
        cases h
        exact ⟨internal, rfl, rfl, visible⟩
      · cases h
  · rintro ⟨internal, named, rfl, visible⟩
    rw [openGroup, run_bind_of_ok (run_findGroupReference hf internal), named, Option.map_some]
    dsimp only
    rw [run_bind_of_ok (run_groupAccess hf g), if_pos visible]
    rfl

/-- The uuid of an opened group, if it is a group of the store. -/
def OpenGroup.uuid? (o : OpenGroup) : Option Uuid :=
  match o.group with
  | .stored g => some g.uuid
  | .external _ _ => none

theorem OpenGroup.uuid?_of_stored {o : OpenGroup} (h : o.stored = .ok g) :
    o.uuid? = some g.uuid := by
  obtain ⟨group, access⟩ := o
  cases group with
  | external id name => cases h
  | stored g =>
    cases h
    rfl

theorem OpenGroup.eq_some_uuid? {o : OpenGroup} {u : Uuid} (h : o.uuid? = some u) :
    ∃ g access, o = ⟨.stored g, access⟩ ∧ g.uuid = u := by
  obtain ⟨group, access⟩ := o
  cases group with
  | external id name => cases h
  | stored g => exact ⟨g, access, rfl, Option.some.inj h⟩

/-- Only for a user a group is opened so that members can be added. -/
theorem user_of_openGroup {o : OpenGroup} (h : (openGroup settings caller id).run w = (.ok o, x))
    (can : o.access.canAddMember = true) : ∃ a, caller = .user a := by
  obtain ⟨-, -, access⟩ := openGroup_eq_ok h
  cases caller with
  | user a => exact ⟨a, rfl⟩
  | anonymous =>
    obtain ⟨group, _⟩ := o
    cases group with
    | external id name =>
      cases access
      cases can
    | stored g =>
      cases access
      cases can

/-- A group that was opened is opened again, wider perhaps, with what the caller could do. -/
theorem openGroup_again (hw : w.failing = []) (hx : x.failing = [])
    (grows : w.store.Grows widen x.store)
    (h : (openGroup settings caller id).run w = (.ok ⟨.stored g, access⟩, w)) :
    ∃ later, (openGroup settings caller id).run x = (.ok ⟨.stored (widen g), later⟩, x) ∧
      (access.canAddMember = true → later.canAddMember = true) := by
  obtain ⟨internal, named, rfl, visible⟩ := (openGroup_eq_stored hw).1 h
  obtain ⟨seen, can⟩ := grows.accessTo settings caller g
  refine ⟨_, (openGroup_eq_stored hx).2 ⟨internal, ?_, rfl, seen visible⟩, can⟩
  rw [grows.groupNamed, named, Option.map_some]

end

end CodeReview
