import Mathlib.Data.List.Forall2
import CodeReview.Proofs.Identifier
import CodeReview.Proofs.Store.Groups
set_option autoImplicit false

/-!
Runs of calls about groups, in lists and in tables. The uuids of new groups are drawn at random,
so the two runs are compared up to a renaming of uuids. The kinds differ in the number of a new
group: in lists it comes from a counter, in tables after the greatest number that is there. Once
the group with the greatest number is deleted, tables give its number again. The answers are alike
just as long as the two numbers are.
-/
namespace CodeReview

inductive GroupCall where
  | create (drawn : Uuid) (n : NewGroup)
  | get (uuid : Uuid)
  | findByName (name : String)
  | findById (id : GroupNumber)
  | updateMembers (uuid : Uuid) (modify : AccountSet → AccountSet)
  | containing (a : AccountId)
  | delete (uuid : Uuid)

inductive GroupAnswer where
  | group (g : Group)
  | found (g : Option Group)
  | uuids (us : List Uuid)
  | deleted
  | refused (e : StoreError)

namespace Store

/-- The answer to a call and the store after it; a refused call leaves the store as it was. -/
def settle {α : Type} (s : Store) (answer : α → GroupAnswer) :
    Except StoreError (α × Store) → GroupAnswer × Store
  | .ok (a, t) => (answer a, t)
  | .error e => (.refused e, s)

def callGroup (s : Store) : GroupCall → GroupAnswer × Store
  | .create drawn n => s.settle .group (s.createGroup drawn n)
  | .get uuid => s.settle .group ((s.getGroup uuid).map (·, s))
  | .findByName name => (.found (s.findGroupByName name), s)
  | .findById id => (.found (s.findGroupById id), s)
  | .updateMembers uuid modify => s.settle .group (s.updateMembers uuid modify)
  | .containing a => (.uuids (s.groupsContaining a), s)
  | .delete uuid => s.settle (fun _ => .deleted) (s.deleteGroup uuid)

def playGroups (s : Store) : List GroupCall → List GroupAnswer
  | [] => []
  | c :: cs => (s.callGroup c).1 :: (s.callGroup c).2.playGroups cs

/-- What holds of each call of a run and the store it is made on. -/
def Along (P : Store → GroupCall → Prop) (s : Store) : List GroupCall → Prop
  | [] => True
  | c :: cs => P s c ∧ (s.callGroup c).2.Along P cs

/-- A uuid that is drawn is not the uuid of a group. -/
def DrawsFresh (s : Store) (c : GroupCall) : Prop :=
  ∀ drawn n, c = .create drawn n → ∀ g ∈ s.groups, g.uuid ≠ drawn

/-- A new group gets the number after the greatest that is there. -/
def Counted (s : Store) (c : GroupCall) : Prop :=
  ∀ drawn n g t, c = .create drawn n → s.createGroup drawn n = .ok (g, t) →
    nextNumber firstGroup.toNat s.groupNumbers = g.id.number.toNat

end Store

def Group.renamed (rename : Uuid → Uuid) (g : Group) : Group :=
  { g with uuid := rename g.uuid, owner := rename g.owner }

def NewGroup.renamed (rename : Uuid → Uuid) (n : NewGroup) : NewGroup :=
  { n with owner := n.owner.map rename }

def StoreError.renamed (rename : Uuid → Uuid) : StoreError → StoreError
  | .groupNotFound text =>
    .groupNotFound (((Uuid.parse? text).map fun u => (rename u).text).getD text)
  | e => e

def GroupCall.renamed (rename : Uuid → Uuid) : GroupCall → GroupCall
  | .create drawn n => .create (rename drawn) (n.renamed rename)
  | .get uuid => .get (rename uuid)
  | .findByName name => .findByName name
  | .findById id => .findById id
  | .updateMembers uuid modify => .updateMembers (rename uuid) modify
  | .containing a => .containing a
  | .delete uuid => .delete (rename uuid)

/-- Equal up to the renaming, where lists of uuids are compared as sets. -/
def GroupAnswer.Alike (rename : Uuid → Uuid) : GroupAnswer → GroupAnswer → Prop
  | .group g, .group h => h = g.renamed rename
  | .found g, .found h => h = g.map (Group.renamed rename)
  | .uuids us, .uuids vs => ∀ v, v ∈ vs ↔ ∃ u ∈ us, rename u = v
  | .deleted, .deleted => True
  | .refused e, .refused f => f = e.renamed rename
  | _, _ => False

section
variable {rename : Uuid → Uuid}

theorem Group.renamed_uuid (g : Group) : (g.renamed rename).uuid = rename g.uuid := rfl

theorem StoreError.renamed_groupNotFound (u : Uuid) :
    (StoreError.groupNotFound u.text).renamed rename = .groupNotFound (rename u).text := by
  rw [renamed, Uuid.parse?_text, Option.map_some, Option.getD_some]

theorem NewGroup.withIds_renamed (n : NewGroup) (uuid : Uuid) (id : GroupNumber) :
    (n.renamed rename).withIds (rename uuid) id = (n.withIds uuid id).renamed rename := by
  cases h : n.owner <;> simp [withIds, renamed, Group.renamed, h]

theorem find?_renamed (inj : Function.Injective rename) (groups : List Group) (u : Uuid) :
    (groups.map (Group.renamed rename)).find? (fun g => g.uuid = rename u) =
      (groups.find? fun g => g.uuid = u).map (Group.renamed rename) := by
  rw [List.find?_map]
  congr 2
  funext g
  rw [Function.comp_apply, Group.renamed_uuid]
  exact decide_eq_decide.2 inj.eq_iff

theorem refusal?_renamed (inj : Function.Injective rename) (groups : List Group) (n : NewGroup) :
    Store.refusal? (groups.map (Group.renamed rename)) (n.renamed rename) =
      (Store.refusal? groups n).map (StoreError.renamed rename) := by
  have names : (groups.map (Group.renamed rename)).find? (fun g => g.name = n.name) =
      (groups.find? fun g => g.name = n.name).map (Group.renamed rename) := List.find?_map
  unfold Store.refusal?
  rw [NewGroup.renamed, names]
  cases groups.find? fun g => g.name = n.name with
  | some g => rfl
  | none =>
    cases n.owner with
    | none => rfl
    | some o =>
      simp only [Option.map_some, Option.map_none, Option.filter, find?_renamed inj,
        Option.isNone_map]
      split
      · rw [Option.map_some, Option.map_some, Option.map_some, StoreError.renamed_groupNotFound]
      · rfl

theorem modified_renamed (inj : Function.Injective rename) (uuid : Uuid)
    (modify : AccountSet → AccountSet) (g : Group) :
    Store.modified (rename uuid) modify (g.renamed rename) =
      (Store.modified uuid modify g).renamed rename := by
  simp only [Store.modified, Group.renamed_uuid, inj.eq_iff]
  split <;> rfl

end

namespace Store

theorem column32_eq_ok {n : Nat} {k : UInt32} : column32 n = .ok k ↔ n = k.toNat := by
  unfold column32
  constructor
  · intro h
    split at h
    · next small =>
      cases h
      exact (UInt32.toNat_ofNat_of_lt small).symm
    · cases h
  · rintro rfl
    rw [if_pos k.toNat_lt, UInt32.ofNat_toNat]

/-- Tables with the same groups as lists, up to the renaming. -/
structure Mirrors (rename : Uuid → Uuid) (s t : Store) : Prop where
  lists : s.inLists = true
  rows : t.inLists = false
  tidyLists : s.Tidy
  tidyRows : t.Tidy
  groups : t.groups = s.groups.map (Group.renamed rename)

namespace Mirrors
variable {rename : Uuid → Uuid} {s t : Store}

theorem find? (h : Mirrors rename s t) (inj : Function.Injective rename) (u : Uuid) :
    t.groups.find? (fun g => g.uuid = rename u) =
      (s.groups.find? fun g => g.uuid = u).map (Group.renamed rename) := by
  rw [h.groups, find?_renamed inj]

theorem groupNumbers (h : Mirrors rename s t) : t.groupNumbers = s.groupNumbers := by
  rw [Store.groupNumbers, h.groups, List.map_map]
  rfl

theorem fresh (h : Mirrors rename s t) (inj : Function.Injective rename) {drawn : Uuid}
    (fresh : ∀ g ∈ s.groups, g.uuid ≠ drawn) : ∀ g ∈ t.groups, g.uuid ≠ rename drawn := by
  rw [h.groups]
  intro _ hg e
  obtain ⟨g, hm, rfl⟩ := List.mem_map.1 hg
  exact fresh g hm (inj e)

theorem nextLists (h : Mirrors rename s t) : ∃ k, s.nextGroup = .ok k := by
  cases s with
  | memory m => exact ⟨m.nextGroup, rfl⟩
  | tables m => cases h.lists

theorem nextRows (h : Mirrors rename s t) :
    t.nextGroup = column32 (nextNumber firstGroup.toNat s.groupNumbers) := by
  rw [← h.groupNumbers]
  cases t with
  | memory m => cases h.rows
  | tables m => rfl

theorem same (h : Mirrors rename s t) {s' t' : Store} (left : s'.inLists = s.inLists)
    (right : t'.inLists = t.inLists) (tidyLists : s'.Tidy) (tidyRows : t'.Tidy)
    (groups : t'.groups = s'.groups.map (Group.renamed rename)) : Mirrors rename s' t' :=
  ⟨left.trans h.lists, right.trans h.rows, tidyLists, tidyRows, groups⟩

theorem create_refused (h : Mirrors rename s t) (inj : Function.Injective rename) {drawn : Uuid}
    (fresh : ∀ g ∈ s.groups, g.uuid ≠ drawn) {n : NewGroup} {e : StoreError}
    (refused : refusal? s.groups n = some e) :
    s.createGroup drawn n = .error e ∧
      t.createGroup (rename drawn) (n.renamed rename) = .error (e.renamed rename) := by
  have left := createGroup_fresh h.tidyLists fresh n
  have right := createGroup_fresh h.tidyRows (h.fresh inj fresh) (n.renamed rename)
  rw [created, refused] at left
  rw [created, h.groups, refusal?_renamed inj, refused] at right
  exact ⟨left, right⟩

theorem create_lists (h : Mirrors rename s t) {drawn : Uuid}
    (fresh : ∀ g ∈ s.groups, g.uuid ≠ drawn) {n : NewGroup}
    (admitted : refusal? s.groups n = none) :
    ∃ k s', s.createGroup drawn n = .ok (n.withIds drawn ⟨k⟩, s') ∧
      s'.groups = s.groups ++ [n.withIds drawn ⟨k⟩] ∧ s'.Tidy ∧ s'.inLists = s.inLists := by
  have result := createGroup_fresh h.tidyLists fresh n
  obtain ⟨k, hk⟩ := h.nextLists
  rw [created, admitted, hk] at result
  exact ⟨k, result⟩

theorem create_rows (h : Mirrors rename s t) (inj : Function.Injective rename) {drawn : Uuid}
    (fresh : ∀ g ∈ s.groups, g.uuid ≠ drawn) {n : NewGroup}
    (admitted : refusal? s.groups n = none) :
    match column32 (nextNumber firstGroup.toNat s.groupNumbers) with
    | .error e => t.createGroup (rename drawn) (n.renamed rename) = .error e
    | .ok k => ∃ t', t.createGroup (rename drawn) (n.renamed rename) =
        .ok ((n.withIds drawn ⟨k⟩).renamed rename, t') ∧
      t'.groups = t.groups ++ [(n.withIds drawn ⟨k⟩).renamed rename] ∧ t'.Tidy ∧
      t'.inLists = t.inLists := by
  have result := createGroup_fresh h.tidyRows (h.fresh inj fresh) (n.renamed rename)
  rw [created, h.groups, refusal?_renamed inj, admitted, h.nextRows] at result
  cases number : column32 (nextNumber firstGroup.toNat s.groupNumbers) with
  | error e =>
    rw [number] at result
    exact result
  | ok k =>
    rw [number] at result
    simp only [Option.map_none, Except.map, n.withIds_renamed] at result
    rw [h.groups]
    exact result

theorem create (h : Mirrors rename s t) (inj : Function.Injective rename) {drawn : Uuid}
    (fresh : ∀ g ∈ s.groups, g.uuid ≠ drawn) (n : NewGroup) :
    (GroupAnswer.Alike rename (s.callGroup (.create drawn n)).1
        (t.callGroup (.create (rename drawn) (n.renamed rename))).1 ↔
      s.Counted (.create drawn n)) ∧
    (s.Counted (.create drawn n) → Mirrors rename (s.callGroup (.create drawn n)).2
      (t.callGroup (.create (rename drawn) (n.renamed rename))).2) := by
  cases refused : refusal? s.groups n with
  | some e =>
    obtain ⟨left, right⟩ := h.create_refused inj fresh refused
    have counted : s.Counted (.create drawn n) := by
      intro _ _ g s' call made
      cases call
      rw [left] at made
      cases made
    simp only [callGroup, left, right, settle]
    exact ⟨iff_of_true rfl counted, fun _ => h⟩
  | none =>
    obtain ⟨k, s', left, groups, tidy, kind⟩ := h.create_lists fresh refused
    have counted : s.Counted (.create drawn n) ↔
        column32 (nextNumber firstGroup.toNat s.groupNumbers) = .ok k := by
      rw [column32_eq_ok]
      constructor
      · intro all
        exact all drawn n _ s' rfl left
      · intro next _ _ g s' call made
        cases call
        rw [left] at made
        cases made
        exact next
    have result := h.create_rows inj fresh refused
    rw [counted]
    cases number : column32 (nextNumber firstGroup.toNat s.groupNumbers) with
    | error e =>
      rw [number] at result
      simp only [callGroup, left, result, settle]
      exact ⟨iff_of_false (fun alike => alike) (by simp), by simp⟩
    | ok k' =>
      rw [number] at result
      obtain ⟨t', right, groups', tidy', kind'⟩ := result
      simp only [callGroup, left, right, settle]
      constructor
      · rw [GroupAnswer.Alike, Except.ok.injEq]
        constructor
        · intro e
          exact GroupNumber.mk.inj (congrArg Group.id e)
        · rintro rfl
          rfl
      · intro e
        cases e
        refine h.same kind kind' tidy tidy' ?_
        rw [groups', groups, h.groups, List.map_append, List.map_singleton]

theorem get (h : Mirrors rename s t) (inj : Function.Injective rename) (uuid : Uuid) :
    GroupAnswer.Alike rename (s.callGroup (.get uuid)).1 (t.callGroup (.get (rename uuid))).1 ∧
      Mirrors rename (s.callGroup (.get uuid)).2 (t.callGroup (.get (rename uuid))).2 := by
  rw [callGroup, callGroup, getGroup_eq, getGroup_eq, h.find? inj]
  cases s.groups.find? fun g => g.uuid = uuid with
  | none => exact ⟨(StoreError.renamed_groupNotFound uuid).symm, h⟩
  | some g => exact ⟨rfl, h⟩

theorem findByName (h : Mirrors rename s t) (name : String) :
    t.findGroupByName name = (s.findGroupByName name).map (Group.renamed rename) := by
  rw [findGroupByName_eq, findGroupByName_eq, h.groups]
  exact List.find?_map

theorem findById (h : Mirrors rename s t) (id : GroupNumber) :
    t.findGroupById id = (s.findGroupById id).map (Group.renamed rename) := by
  rw [findGroupById_eq, findGroupById_eq, h.groups]
  exact List.find?_map

theorem updateMembers (h : Mirrors rename s t) (inj : Function.Injective rename) (uuid : Uuid)
    (modify : AccountSet → AccountSet) :
    GroupAnswer.Alike rename (s.callGroup (.updateMembers uuid modify)).1
        (t.callGroup (.updateMembers (rename uuid) modify)).1 ∧
      Mirrors rename (s.callGroup (.updateMembers uuid modify)).2
        (t.callGroup (.updateMembers (rename uuid) modify)).2 := by
  have same := h.find? inj uuid
  cases found : s.groups.find? fun g => g.uuid = uuid with
  | none =>
    rw [found] at same
    simp only [callGroup, updateMembers_unknown found, updateMembers_unknown same, settle]
    exact ⟨(StoreError.renamed_groupNotFound uuid).symm, h⟩
  | some g =>
    rw [found] at same
    obtain ⟨s', left, groups, tidy, kind⟩ := updateMembers_known h.tidyLists found modify
    obtain ⟨t', right, groups', tidy', kind'⟩ := updateMembers_known h.tidyRows same modify
    simp only [callGroup, left, right, settle]
    refine ⟨rfl, h.same kind kind' tidy tidy' ?_⟩
    rw [groups', groups, h.groups, List.map_map, List.map_map]
    exact List.map_congr_left fun g _ => modified_renamed inj uuid modify g

theorem containing (h : Mirrors rename s t) (a : AccountId) :
    GroupAnswer.Alike rename (s.callGroup (.containing a)).1 (t.callGroup (.containing a)).1 := by
  intro v
  rw [mem_groupsContaining h.tidyRows, h.groups]
  constructor
  · rintro ⟨_, hg, hu, member⟩
    obtain ⟨g, hm, rfl⟩ := List.mem_map.1 hg
    exact ⟨g.uuid, (mem_groupsContaining h.tidyLists).2 ⟨g, hm, rfl, member⟩, hu⟩
  · rintro ⟨u, hu, rfl⟩
    obtain ⟨g, hm, rfl, member⟩ := (mem_groupsContaining h.tidyLists).1 hu
    exact ⟨g.renamed rename, List.mem_map_of_mem hm, rfl, member⟩

theorem delete (h : Mirrors rename s t) (inj : Function.Injective rename) (uuid : Uuid) :
    GroupAnswer.Alike rename (s.callGroup (.delete uuid)).1
        (t.callGroup (.delete (rename uuid))).1 ∧
      Mirrors rename (s.callGroup (.delete uuid)).2 (t.callGroup (.delete (rename uuid))).2 := by
  have same := h.find? inj uuid
  cases found : s.groups.find? fun g => g.uuid = uuid with
  | none =>
    rw [found] at same
    simp only [callGroup, deleteGroup_unknown found, deleteGroup_unknown same, settle]
    exact ⟨(StoreError.renamed_groupNotFound uuid).symm, h⟩
  | some g =>
    rw [found] at same
    obtain ⟨s', left, groups, tidy, kind⟩ := deleteGroup_known h.tidyLists found
    obtain ⟨t', right, groups', tidy', kind'⟩ := deleteGroup_known h.tidyRows same
    simp only [callGroup, left, right, settle]
    refine ⟨trivial, h.same kind kind' tidy tidy' ?_⟩
    rw [groups', groups, h.groups, List.filter_map]
    congr 2
    funext g
    simp [Group.renamed_uuid, inj.eq_iff]

/-- Mirrored stores answer a call alike just when a new group is counted alike, and then they
mirror each other afterwards. -/
theorem step (h : Mirrors rename s t) (inj : Function.Injective rename) (c : GroupCall)
    (fresh : s.DrawsFresh c) :
    (GroupAnswer.Alike rename (s.callGroup c).1 (t.callGroup (c.renamed rename)).1 ↔
      s.Counted c) ∧
    (s.Counted c → Mirrors rename (s.callGroup c).2 (t.callGroup (c.renamed rename)).2) := by
  have other : (∀ drawn n, c ≠ .create drawn n) →
      GroupAnswer.Alike rename (s.callGroup c).1 (t.callGroup (c.renamed rename)).1 ∧
        Mirrors rename (s.callGroup c).2 (t.callGroup (c.renamed rename)).2 →
      (GroupAnswer.Alike rename (s.callGroup c).1 (t.callGroup (c.renamed rename)).1 ↔
        s.Counted c) ∧
      (s.Counted c → Mirrors rename (s.callGroup c).2 (t.callGroup (c.renamed rename)).2) := by
    intro ne result
    have counted : s.Counted c := fun drawn n _ _ e _ => absurd e (ne drawn n)
    exact ⟨iff_of_true result.1 counted, fun _ => result.2⟩
  cases c with
  | create drawn n => exact h.create inj (fresh drawn n rfl) n
  | get uuid => exact other (by simp) (h.get inj uuid)
  | findByName name => exact other (by simp) ⟨h.findByName name, h⟩
  | findById id => exact other (by simp) ⟨h.findById id, h⟩
  | updateMembers uuid modify => exact other (by simp) (h.updateMembers inj uuid modify)
  | containing a => exact other (by simp) ⟨h.containing a, h⟩
  | delete uuid => exact other (by simp) (h.delete inj uuid)

theorem playGroups_alike_iff (h : Mirrors rename s t) (inj : Function.Injective rename)
    (calls : List GroupCall) (fresh : s.Along DrawsFresh calls) :
    List.Forall₂ (GroupAnswer.Alike rename) (s.playGroups calls)
        (t.playGroups (calls.map (GroupCall.renamed rename))) ↔
      s.Along Counted calls := by
  induction calls generalizing s t with
  | nil => exact iff_of_true .nil trivial
  | cons c cs ih =>
    obtain ⟨alike, mirrors⟩ := h.step inj c fresh.1
    rw [List.map_cons, playGroups, playGroups, List.forall₂_cons, Along, alike]
    exact and_congr_right fun counted => ih (mirrors counted) fresh.2

end Mirrors

theorem mirrors_empty (rename : Uuid → Uuid) : Mirrors rename (memory .empty) (tables .empty) :=
  ⟨rfl, rfl, trivial, Reachable.tables.tidy, rfl⟩

/-- The two kinds of store answer a run alike, up to any renaming of uuids, just when each group
that is created in lists gets the number after the greatest that is there. -/
theorem groups_alike_iff_counted {rename : Uuid → Uuid} (inj : Function.Injective rename)
    (calls : List GroupCall) (fresh : (memory .empty).Along DrawsFresh calls) :
    List.Forall₂ (GroupAnswer.Alike rename) ((memory .empty).playGroups calls)
        ((tables .empty).playGroups (calls.map (GroupCall.renamed rename))) ↔
      (memory .empty).Along Counted calls :=
  (mirrors_empty rename).playGroups_alike_iff inj calls fresh

def sampleUuid (b : UInt8) : Uuid :=
  ⟨List.replicate 16 b, List.length_replicate⟩

def emptyGroup (name : String) : NewGroup :=
  ⟨name, none, none, .empty, false, 0⟩

def createDeleteCreate (deleted : UInt8) : List GroupCall :=
  [.create (sampleUuid 1) (emptyGroup "a"), .create (sampleUuid 2) (emptyGroup "b"),
    .delete (sampleUuid deleted), .create (sampleUuid 3) (emptyGroup "c")]

/-- The uuid with the next value in each byte. -/
def shifted (u : Uuid) : Uuid :=
  ⟨u.bytes.map (· + 1), by rw [List.length_map, u.length_eq]⟩

theorem shifted_injective : Function.Injective shifted := by
  rintro ⟨as, ha⟩ ⟨bs, hb⟩ h
  have bytes : as = bs :=
    List.map_injective_iff.2 (fun _ _ => (UInt8.add_left_inj 1).1) (Uuid.mk.inj h)
  subst bytes
  rfl

theorem counted_of_created {s t : Store} {drawn : Uuid} {n : NewGroup} {g : Group}
    (made : s.createGroup drawn n = .ok (g, t))
    (next : nextNumber firstGroup.toNat s.groupNumbers = g.id.number.toNat) :
    s.Counted (.create drawn n) := by
  intro _ _ g' t' call made'
  cases call
  rw [made] at made'
  cases made'
  exact next

theorem drawsFresh_samples (deleted : UInt8) (h : deleted = 1 ∨ deleted = 2) :
    (memory .empty).Along DrawsFresh (createDeleteCreate deleted) := by
  rcases h with rfl | rfl <;> refine ⟨?_, ?_, ?_, ?_, trivial⟩ <;> intro drawn n e <;> cases e <;>
    decide +kernel

/-- After the group with the number two is deleted, no renaming makes the answers alike: the next
group has the number three in lists and two in tables. -/
theorem last_number_given_again :
    ¬∃ rename, Function.Injective rename ∧
      List.Forall₂ (GroupAnswer.Alike rename) ((memory .empty).playGroups (createDeleteCreate 2))
        ((tables .empty).playGroups ((createDeleteCreate 2).map (GroupCall.renamed rename))) := by
  rintro ⟨rename, inj, alike⟩
  have fresh := drawsFresh_samples 2 (.inr rfl)
  have counted := ((mirrors_empty rename).playGroups_alike_iff inj _ fresh).1 alike
  have third := counted.2.2.2.1 _ _ _ _ rfl rfl
  exact absurd third (by decide +kernel)

/-- After the first group is deleted the third one has the same number in lists and in tables. -/
theorem first_deleted_alike :
    List.Forall₂ (GroupAnswer.Alike shifted) ((memory .empty).playGroups (createDeleteCreate 1))
      ((tables .empty).playGroups ((createDeleteCreate 1).map (GroupCall.renamed shifted))) := by
  refine (groups_alike_iff_counted shifted_injective (createDeleteCreate 1)
    (drawsFresh_samples 1 (.inl rfl))).2 ⟨?first, ?second, ?delete, ?third, trivial⟩
  case first => exact counted_of_created rfl (by decide +kernel)
  case second => exact counted_of_created rfl (by decide +kernel)
  case delete =>
    intro _ _ _ _ call
    cases call
  case third => exact counted_of_created rfl (by decide +kernel)

end Store

end CodeReview
