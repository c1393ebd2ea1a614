import CodeReview.Group.Access
import CodeReview.Proofs.Account.Lookup
set_option autoImplicit false

/-!
Opening a group reads the store and changes nothing, and whoever is called an owner of it is a
direct member of the group that owns it or of the administrators.
-/
namespace CodeReview
open Act

theorem reads_findGroup (uuid : Uuid) : Reads (findGroup uuid) :=
  (Reads.read _ _).outcome.bind fun r => by
    split
    · exact Reads.pure _
    · exact Reads.pure _
    · exact Reads.fail _

theorem reads_ownsGroup (settings : Settings) (viewer : AccountId) (g : Group) :
    Reads (ownsGroup settings viewer g) :=
  ((reads_isAdministrator _ _).mapError _).bind fun _ =>
    Reads.ite (Reads.pure _) (Reads.ite (Reads.pure _)
      ((reads_findGroup _).bind fun _ => Reads.pure _))

theorem reads_groupAccess (settings : Settings) (caller : Caller) (g : GroupReference) :
    Reads (groupAccess settings caller g) := by
  cases g with
  | external id name => exact Reads.pure _
  | stored g =>
    cases hv : caller.accountId? with
    | none =>
      simp only [groupAccess, hv]
      exact Reads.pure _
    | some viewer =>
      simp only [groupAccess, hv]
      exact (reads_ownsGroup _ _ _).bind fun _ => Reads.pure _

theorem reads_findGroupByNumberOrName (id : String) : Reads (findGroupByNumberOrName id) := by
  unfold findGroupByNumberOrName
  split
  · exact (Reads.read _ _).mapError _
  · refine ((Reads.read _ _).mapError _).bind fun found => ?_
    cases found with
    | some g => exact Reads.pure _
    | none => exact (Reads.read _ _).mapError _

theorem reads_findGroupReference (id : String) : Reads (findGroupReference id) := by
  unfold findGroupReference
  split
  · exact Reads.pure _
  · split
    · exact (reads_findGroup _).bind fun _ => Reads.pure _
    · exact (reads_findGroupByNumberOrName _).bind fun _ => Reads.pure _

theorem reads_openGroup (settings : Settings) (caller : Caller) (id : String) :
    Reads (openGroup settings caller id) := by
  refine (reads_findGroupReference id).bind fun found => ?_
  cases found with
  | none => exact Reads.fail _
  | some g =>
    exact (reads_groupAccess _ _ _).bind fun access => Reads.ite (Reads.pure _) (Reads.fail _)

section
variable {settings : Settings} {caller : Caller} {viewer : AccountId} {id : String}
  {w w' : World} {g : Group}

theorem mem_of_findGroup {uuid : Uuid} (h : (findGroup uuid).run w = (.ok (some g), w')) :
    g ∈ w.store.groups ∧ g.uuid = uuid := by
  obtain ⟨r, v, hr, k⟩ := run_bind_eq_ok.1 h
  rw [run_outcome, Prod.mk.injEq, Except.ok.injEq] at hr
  obtain ⟨rfl, rfl⟩ := hr
  split at k
  · next o hf =>
    cases k
    have found : (Act.getGroup uuid).run w = (.ok g, w) := Prod.ext hf (Reads.read _ _ w)
    exact Store.mem_of_getGroup (run_read_eq_ok.1 found).2.1
  · cases k
  · simp at k

theorem mem_of_findGroupByName {name : String}
    (h : ((Act.findGroupByName name).mapError ApiError.ofStore).run w = (.ok (some g), w')) :
    g ∈ w.store.groups ∧ g.name = name := by
  obtain ⟨-, hf, -⟩ := run_read_eq_ok.1 (run_mapError_eq_ok.1 h)
  exact Store.mem_of_findGroupByName (Except.ok.inj hf)

theorem mem_of_findGroupByNumberOrName
    (h : (findGroupByNumberOrName id).run w = (.ok (some g), w')) : g ∈ w.store.groups := by
  unfold findGroupByNumberOrName at h
  split at h
  · exact (mem_of_findGroupByName h).1
  · obtain ⟨found, v, hf, k⟩ := run_bind_eq_ok.1 h
    obtain ⟨-, hi, rfl⟩ := run_read_eq_ok.1 (run_mapError_eq_ok.1 hf)
    cases found with
    | some o =>
      cases k
      exact (Store.mem_of_findGroupById (Except.ok.inj hi)).1
    | none => exact (mem_of_findGroupByName k).1

theorem mem_of_findGroupReference
    (h : (findGroupReference id).run w = (.ok (some (.stored g)), w')) : g ∈ w.store.groups := by
  unfold findGroupReference at h
  split at h
  · next reference he =>
    cases h
    unfold GroupReference.external? at he
    obtain ⟨name, -, hn⟩ := Option.map_eq_some_iff.1 he
    simp at hn
  · split at h
    · obtain ⟨found, v, hf, k⟩ := run_bind_eq_ok.1 h
      cases found with
      | none => cases k
      | some o =>
        cases k
        exact (mem_of_findGroup hf).1
    · obtain ⟨found, v, hf, k⟩ := run_bind_eq_ok.1 h
      cases found with
      | none => cases k
      | some o =>
        cases k
        exact mem_of_findGroupByNumberOrName hf

theorem openGroup_eq_ok {r : OpenGroup} (h : (openGroup settings caller id).run w = (.ok r, w')) :
    w' = w ∧ (findGroupReference id).run w = (.ok (some r.group), w) ∧
      (groupAccess settings caller r.group).run w = (.ok r.access, w) := by
  obtain rfl := (reads_openGroup _ _ _).world_eq h
  obtain ⟨found, v, hf, k⟩ := run_bind_eq_ok.1 h
  obtain rfl := (reads_findGroupReference _).world_eq hf
  cases found with
  | none => simp at k
  | some g =>
    obtain ⟨access, u, ha, kn⟩ := run_bind_eq_ok.1 k
    obtain rfl := (reads_groupAccess _ _ _).world_eq ha
    split at kn
    · cases kn
      exact ⟨rfl, hf, ha⟩
    · simp at kn

/-- A direct member of the group that owns a group, or of the administrators. -/
def MayOwn (settings : Settings) (s : Store) (viewer : AccountId) (g : Group) : Prop :=
  ∃ o ∈ s.groups, (o.uuid = g.owner ∨ o.name = settings.adminGroup) ∧ o.hasMember viewer = true

theorem mayOwn_of_ownsGroup (hg : g ∈ w.store.groups)
    (h : (ownsGroup settings viewer g).run w = (.ok true, w')) :
    MayOwn settings w.store viewer g := by
  obtain ⟨admin, v, ha, k⟩ := run_bind_eq_ok.1 h
  obtain rfl := ((reads_isAdministrator _ _).mapError _).world_eq ha
  split at k
  · next yes =>
    obtain ⟨found, u, hf, kn⟩ := run_bind_eq_ok.1 (run_mapError_eq_ok.1 ha)
    obtain ⟨-, hn, -⟩ := run_read_eq_ok.1 hf
    cases kn
    obtain ⟨o, rfl, ho⟩ : ∃ o, found = some o ∧ o.hasMember viewer = true :=
      (Option.any_eq_true _ _).1 yes
    obtain ⟨mem, name⟩ := Store.mem_of_findGroupByName (Except.ok.inj hn)
    exact ⟨o, mem, .inr name, ho⟩
  · split at k
    · next own =>
      have member : g.hasMember viewer = true := Except.ok.inj (Prod.mk.inj k).1
      exact ⟨g, hg, .inl own.symm, member⟩
    · obtain ⟨found, u, hf, kn⟩ := run_bind_eq_ok.1 k
      have member : found.any (fun o => o.hasMember viewer) = true :=
        Except.ok.inj (Prod.mk.inj kn).1
      obtain ⟨o, rfl, ho⟩ : ∃ o, found = some o ∧ o.hasMember viewer = true :=
        (Option.any_eq_true _ _).1 member
      obtain ⟨mem, uuid⟩ := mem_of_findGroup hf
      exact ⟨o, mem, .inl uuid, ho⟩

theorem mayOwn_of_canAddMember (hg : g ∈ w.store.groups) {access : GroupAccess}
    (h : (groupAccess settings caller (.stored g)).run w = (.ok access, w'))
    (can : access.canAddMember = true) :
    ∃ viewer, caller.accountId? = some viewer ∧ MayOwn settings w.store viewer g := by
  cases hv : caller.accountId? with
  | none =>
    simp only [groupAccess, hv] at h
    cases h
    simp [GroupAccess.canAddMember] at can
  | some viewer =>
    simp only [groupAccess, hv] at h
    obtain ⟨owner, v, ho, k⟩ := run_bind_eq_ok.1 h
    cases k
    have yes : owner = true := by simpa [GroupAccess.canAddMember] using can
    rw [yes] at ho
    exact ⟨viewer, rfl, mayOwn_of_ownsGroup hg ho⟩

end

end CodeReview
