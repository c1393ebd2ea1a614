import Mathlib.Logic.Function.Basic
import CodeReview.Proofs.Group.Repeated
import CodeReview.Proofs.Store.Deletion
set_option autoImplicit false

/-!
Clients that work side by side, each with its own copy of a group. Members are added to the group
as it is in the store, so nothing that others have added in the meantime is lost, and a group that
was deleted is not found any more.
-/
namespace CodeReview
open Act

/-- Nothing fails, no account is lost, and what there is was written call by call. -/
structure World.Continues (w w' : World) : Prop where
  failing : w'.failing = w.failing
  readOnly : w'.readOnly = w.readOnly
  reachable : w.store.Reachable → w'.store.Reachable
  accounts : ∀ a ∈ w.store.accounts, a ∈ w'.store.accounts

namespace World.Continues
variable {w v w' : World}

theorem refl (w : World) : w.Continues w :=
  ⟨rfl, rfl, fun h => h, fun _ h => h⟩

theorem trans (h : w.Continues v) (k : v.Continues w') : w.Continues w' :=
  ⟨k.failing.trans h.failing, k.readOnly.trans h.readOnly, fun r => k.reachable (h.reachable r),
    fun a there => k.accounts a (h.accounts a there)⟩

theorem of_provisions {created : List Account} (h : w.Provisions created w') : w.Continues w' where
  failing := h.failing
  readOnly := h.readOnly
  reachable := h.store.reachable
  accounts _ there := h.store.accounts ▸ List.mem_append_left created there

theorem of_write {t : Store} (h : w.store.Write t) (same : t.accounts = w.store.accounts) :
    w.Continues { w with store := t } :=
  ⟨rfl, rfl, fun r => r.write h, fun _ there => same ▸ there⟩

theorem of_run_write {α : Type} {call : StoreCall} {f : Store → Except StoreError (α × Store)}
    (writes : ∀ a t, f w.store = .ok (a, t) → w.store.Write t ∧ t.accounts = w.store.accounts) :
    w.Continues ((Act.write call f).run w).2 := by
  cases run : (Act.write call f).run w with
  | mk result v =>
    cases result with
    | error e =>
      obtain rfl := world_of_write_error run
      exact .refl v
    | ok a =>
      obtain ⟨-, t, written, -, rfl⟩ := run_write_eq_ok.1 run
      exact .of_write (writes a t written).1 (writes a t written).2

end World.Continues

/-- The group with more members. -/
def Group.joinedBy (g : Group) (ids : List AccountId) : Group :=
  { g with members := g.members.insertAll ids }

@[simp] theorem Group.joinedBy_nil (g : Group) : g.joinedBy [] = g := rfl

@[simp] theorem Group.joinedBy_uuid (g : Group) (ids : List AccountId) :
    (g.joinedBy ids).uuid = g.uuid := rfl

theorem Group.joinedBy_joinedBy (g : Group) (ids more : List AccountId) :
    (g.joinedBy ids).joinedBy more = g.joinedBy (ids ++ more) := by
  unfold joinedBy AccountSet.insertAll
  rw [List.foldl_append]

section
variable {settings : Settings} {caller : Caller} {o : OpenGroup} {tokens : List String}
  {w w' : World} {ids : List AccountId} {as : List Account} {u : Uuid}

theorem continues_of_addIds {result : Except ApiError Unit}
    (h : (addIds u ids).run w = (result, w')) : w.Continues w' := by
  rcases addIds_cases h with ⟨rfl, -⟩ | ⟨g, t, written, rfl, -⟩
  · exact .refl w'
  · exact .of_write (.updateMembers written) (Store.updateMembers_eq_ok written).2.1

theorem continues_of_addMembers {result : Except ApiError (List AccountSummary)}
    (h : (addMembers settings caller o tokens).run w = (result, w')) : w.Continues w' := by
  rcases addMembers_cases h with
    ⟨rfl, -⟩ | ⟨g, -, -, -, -, ⟨e, resolved, -⟩ | ⟨ids, v, resolved, k⟩⟩
  · exact .refl w'
  · obtain ⟨created, way⟩ := provisions_of_resolveAll resolved
    exact .of_provisions way
  obtain ⟨created, way⟩ := provisions_of_resolveAll resolved
  refine (World.Continues.of_provisions way).trans ?_
  rcases k with ⟨e, written, -⟩ | ⟨x, written, shown⟩
  · exact continues_of_addIds written
  · obtain rfl := (ungrouped_summaries (ungrouped_requiredSummary true) ids).reads.world_eq shown
    exact continues_of_addIds written

/-- Accounts that are there are shown, each by its own number. -/
theorem run_summaries_of_mem (hf : w.failing = [])
    (there : ∀ id ∈ ids, ∃ a ∈ w.store.accounts, a.id = id) :
    ∃ infos, (summaries (requiredSummary true) ids).run w = (.ok infos, w) ∧
      infos.map AccountSummary.id = ids := by
  induction ids with
  | nil => exact ⟨[], rfl, rfl⟩
  | cons id ids ih =>
    obtain ⟨infos, run, shown⟩ := ih fun i hi => there i (List.mem_cons_of_mem id hi)
    obtain ⟨a, found⟩ : ∃ a, w.store.accounts.find? (fun a => a.id = id) = some a := by
      obtain ⟨a, ha, here⟩ := there id List.mem_cons_self
      rw [← Option.isSome_iff_exists, List.find?_isSome]
      exact ⟨a, ha, by simpa using here⟩
    have first : (requiredSummary true id).run w = (.ok (.detailed a), w) := by
      rw [requiredSummary, run_bind_of_ok (run_findAccount_of_works hf id), found]
      rfl
    have number : a.id = id := by simpa using List.find?_some found
    refine ⟨.detailed a :: infos, ?_, by rw [List.map_cons, shown, ← number]; rfl⟩
    rw [summaries, run_bind_of_ok first, run_bind_of_ok run]
    rfl

theorem mem_firstIds {id : AccountId} : id ∈ firstIds as ↔ ∃ a ∈ as, a.id = id := by
  rw [firstIds, foldl_keepFirst]
  simp

/-- Adding members ends in an error with all groups as they were, or the group of the kept copy has
the members that are shown. -/
theorem groups_of_addMembers {result : Except ApiError (List AccountSummary)}
    (hf : w.failing = []) (hc : ∀ c, caller = .user c → c ∈ w.store.accounts)
    (h : (addMembers settings caller o tokens).run w = (result, w')) :
    (∃ e, result = .error e ∧ w'.store.groups = w.store.groups) ∨
      ∃ u infos, o.uuid? = some u ∧ result = .ok infos ∧ w'.store.groups =
        w.store.groups.map (Store.modified u fun m =>
          m.insertAll (infos.map AccountSummary.id)) := by
  rcases addMembers_cases h with
    ⟨rfl, e, rfl⟩ | ⟨g, c, stored, rfl, can, ⟨e, resolved, rfl⟩ | ⟨ids, v, resolved, k⟩⟩
  · exact .inl ⟨e, rfl, rfl⟩
  · obtain ⟨created, way⟩ := provisions_of_resolveAll resolved
    exact .inl ⟨e, rfl, way.store.groups⟩
  obtain ⟨created, way⟩ := provisions_of_resolveAll resolved
  rcases k with ⟨e, written, rfl⟩ | ⟨x, written, shown⟩
  · rcases addIds_cases written with ⟨rfl, -⟩ | ⟨_, _, _, _, ok⟩
    · exact .inl ⟨e, rfl, way.store.groups⟩
    · cases ok
  · right
    obtain ⟨as, resolves, -, rfl⟩ := resolveAll_eq_ok resolved
    obtain ⟨groups, accounts, -, failing⟩ := addIds_eq_ok written
    -- The accounts of the batch are there, so all of them can be shown.
    have there : ∀ id ∈ firstIds as, ∃ a ∈ x.store.accounts, a.id = id := fun id member => by
      obtain ⟨a, ha, here⟩ := mem_firstIds.1 member
      exact ⟨a, accounts ▸ (resolves.mem hc).2 a ha, here⟩
    obtain ⟨infos, run, names⟩ :=
      run_summaries_of_mem (failing.trans (way.failing.trans hf)) there
    obtain ⟨rfl, rfl⟩ := Prod.mk.inj (run.symm.trans shown)
    refine ⟨g.uuid, infos, ?_, rfl, ?_⟩
    · rw [OpenGroup.uuid?, stored]
    · rw [groups, way.store.groups, names]
      rfl

/-- A batch for a group that is gone is not added. -/
theorem addMembers_absent (gone : ∀ g ∈ w.store.groups, g.uuid ≠ u) (hf : w.failing = [])
    (kept : o.uuid? = some u) (can : o.access.canAddMember = true)
    (user : ∃ c, caller = .user c) (asked : tokens ≠ [])
    (resolved : Resolves settings caller w tokens as w') (active : ∀ a ∈ as, a.active = true) :
    (addMembers settings caller o tokens).run w =
      (.error (.ofStore (.groupNotFound u.text)), w') := by
  obtain ⟨g, access, rfl, rfl⟩ := OpenGroup.eq_some_uuid? kept
  obtain ⟨c, rfl⟩ := user
  obtain ⟨created, way⟩ := resolved.provisions
  have ids : (resolveAll settings (.user c) [] tokens).run w = (.ok (firstIds as), w') :=
    resolved.run_resolveAll active []
  have absent : w'.store.groups.find? (fun h => h.uuid = g.uuid) = none := by
    rw [way.store.groups, List.find?_eq_none]
    exact fun h hh same => gone h hh (of_decide_eq_true same)
  have unwritten : (addIds g.uuid (firstIds as)).run w' =
      (.error (.ofStore (.groupNotFound g.uuid.text)), w') := by
    have nonempty : firstIds as ≠ [] := by
      cases resolved with
      | nil => exact absurd rfl asked
      | @cons _ _ _ _ _ a _ =>
        exact List.ne_nil_of_mem (mem_firstIds.2 ⟨a, List.mem_cons_self, rfl⟩)
    have refused : (Act.updateMembers g.uuid fun m => m.insertAll (firstIds as)).run w' =
        (.error (.groupNotFound g.uuid.text), w') := by
      rw [Act.updateMembers, run_write, way.failing.trans hf, if_neg List.not_mem_nil,
        Store.updateMembers_unknown absent]
    rw [addIds, run_bind, run_mapError, refused]
    · rfl
    · exact nonempty
  rw [addMembers_of_can can, run_bind_of_ok ids, run_bind, unwritten]

end

/-- What a client keeps: who it is, and the group it has opened last as it was then. -/
structure Client where
  caller : Caller
  opened : Option OpenGroup

inductive Move where
  | identify (client : Nat) (id : AccountId)
  | openGroup (client : Nat) (text : String)
  | add (client : Nat) (tokens : List String)
  | update (group : Uuid) (ids : List AccountId)
  | delete (group : Uuid)
  deriving DecidableEq, Repr

/-- A world with the clients that work in it. -/
structure Sessions where
  world : World
  client : Nat → Client

namespace Sessions

/-- Nobody has done anything yet. -/
def start (w : World) : Sessions :=
  ⟨w, fun _ => ⟨.anonymous, none⟩⟩

/-- One move. A client that fails to identify itself or to open a group keeps what it has, and one
without a group cannot add to it. -/
def step (settings : Settings) (s : Sessions) : Move → Sessions
  | .identify c id =>
    match (CodeReview.identify id).run s.world with
    | (.ok caller, w) => ⟨w, Function.update s.client c ⟨caller, (s.client c).opened⟩⟩
    | (.error _, w) => ⟨w, s.client⟩
  | .openGroup c text =>
    match (CodeReview.openGroup settings (s.client c).caller text).run s.world with
    | (.ok o, w) => ⟨w, Function.update s.client c ⟨(s.client c).caller, some o⟩⟩
    | (.error _, w) => ⟨w, s.client⟩
  | .add c tokens =>
    match (s.client c).opened with
    | some o => ⟨((addMembers settings (s.client c).caller o tokens).run s.world).2, s.client⟩
    | none => s
  | .update u ids => ⟨((Act.updateMembers u fun m => m.insertAll ids).run s.world).2, s.client⟩
  | .delete u => ⟨((Act.deleteGroup u).run s.world).2, s.client⟩

def play (settings : Settings) (s : Sessions) (moves : List Move) : Sessions :=
  moves.foldl (step settings) s

/-- The members that a move adds to a group: those that a client is shown when it has added to its
copy of the group, or those of a direct update. -/
def gained (settings : Settings) (s : Sessions) (u : Uuid) : Move → List AccountId
  | .add c tokens =>
    match (s.client c).opened with
    | some o =>
      match ((addMembers settings (s.client c).caller o tokens).run s.world).1 with
      | .ok infos => if o.uuid? = some u then infos.map AccountSummary.id else []
      | .error _ => []
    | none => []
  | .update v ids => if v = u then ids else []
  | _ => []

def gains (settings : Settings) (u : Uuid) : Sessions → List Move → List AccountId
  | _, [] => []
  | s, m :: moves => s.gained settings u m ++ gains settings u (s.step settings m) moves

/-- No store call fails, callers are accounts of the store, and only users may add members. -/
structure Sound (s : Sessions) : Prop where
  reachable : s.world.store.Reachable
  works : s.world.failing = []
  writable : s.world.readOnly = false
  callers : ∀ c a, (s.client c).caller = .user a → a ∈ s.world.store.accounts
  users : ∀ c o, (s.client c).opened = some o → o.access.canAddMember = true →
    ∃ a, (s.client c).caller = .user a

variable {settings : Settings} {s : Sessions} {w : World} {g : Group} {u : Uuid}

theorem sound_start (hs : w.store.Reachable) (hf : w.failing = []) (writable : w.readOnly = false) :
    (start w).Sound where
  reachable := hs
  works := hf
  writable := writable
  callers c a called := by cases called
  users c o opened := by cases opened

theorem Sound.continues (hs : s.Sound) (c : s.world.Continues w) : Sound ⟨w, s.client⟩ where
  reachable := c.reachable hs.reachable
  works := c.failing.trans hs.works
  writable := c.readOnly.trans hs.writable
  callers i a called := c.accounts a (hs.callers i a called)
  users := hs.users

/-- A client may keep something else, if its caller is known and is a user who may add members. -/
theorem Sound.update (hs : s.Sound) {c : Nat} {k : Client}
    (called : ∀ a, k.caller = .user a → a ∈ s.world.store.accounts)
    (user : ∀ o, k.opened = some o → o.access.canAddMember = true → ∃ a, k.caller = .user a) :
    Sound ⟨s.world, Function.update s.client c k⟩ where
  reachable := hs.reachable
  works := hs.works
  writable := hs.writable
  callers i a := by
    dsimp only
    rw [Function.update_apply]
    split
    · exact called a
    · exact hs.callers i a
  users i o := by
    dsimp only
    rw [Function.update_apply]
    split
    · exact user o
    · exact hs.users i o

theorem world_identify (s : Sessions) (c : Nat) (id : AccountId) :
    (s.step settings (.identify c id)).world = s.world := by
  rw [step]
  split
  · next run => exact (ungrouped_identify id).reads.world_eq run
  · next run => exact (ungrouped_identify id).reads.world_eq run

theorem world_openGroup (s : Sessions) (c : Nat) (text : String) :
    (s.step settings (.openGroup c text)).world = s.world := by
  rw [step]
  split
  · next run => exact (reads_openGroup _ _ _).world_eq run
  · next run => exact (reads_openGroup _ _ _).world_eq run

theorem Sound.step (hs : s.Sound) (m : Move) : (s.step settings m).Sound := by
  cases m with
  | identify c id =>
    rw [Sessions.step]
    split
    · next caller w run =>
      obtain ⟨a, rfl, known, -, rfl⟩ := identify_eq_ok run
      refine hs.update ?_ fun _ _ _ => ⟨a, rfl⟩
      rintro b ⟨⟩
      exact (Store.mem_of_getAccount known).1
    · next e w run =>
      obtain rfl := (ungrouped_identify id).reads.world_eq run
      exact hs
  | openGroup c text =>
    rw [Sessions.step]
    split
    · next o w run =>
      obtain rfl := (reads_openGroup _ _ _).world_eq run
      refine hs.update (hs.callers c) ?_
      rintro _ ⟨⟩
      exact user_of_openGroup run
    · next e w run =>
      obtain rfl := (reads_openGroup _ _ _).world_eq run
      exact hs
  | add c tokens =>
    rw [Sessions.step]
    split
    · exact hs.continues (continues_of_addMembers rfl)
    · exact hs
  | update u ids =>
    exact hs.continues (.of_run_write fun _ _ written =>
      ⟨.updateMembers written, (Store.updateMembers_eq_ok written).2.1⟩)
  | delete u =>
    exact hs.continues (.of_run_write fun _ _ written =>
      ⟨.deleteGroup written, (Store.deleteGroup_eq_ok written).1⟩)

theorem Sound.run_write {α : Type} (hs : s.Sound) (call : StoreCall)
    (f : Store → Except StoreError (α × Store)) :
    (Act.write call f).run s.world = match f s.world.store with
      | .ok (a, t) => (.ok a, { s.world with store := t })
      | .error e => (.error e, s.world) := by
  have allowed : call ∉ s.world.failing := hs.works ▸ List.not_mem_nil
  rw [Act.run_write, if_neg allowed]
  cases f s.world.store with
  | error e => rfl
  | ok p =>
    obtain ⟨a, t⟩ := p
    refine if_neg fun refused => ?_
    rw [hs.writable] at refused
    exact Bool.false_ne_true refused.1

/-- A direct update reaches its group, if that is there. -/
theorem groups_of_updateMembers (hs : s.Sound) (modify : AccountSet → AccountSet) :
    ((Act.updateMembers u modify).run s.world).2.store.groups =
      s.world.store.groups.map (Store.modified u modify) := by
  rw [Act.updateMembers, hs.run_write]
  cases found : s.world.store.groups.find? fun g => g.uuid = u with
  | none =>
    rw [Store.updateMembers_unknown found]
    refine ((List.map_congr_left fun g there => ?_).trans (List.map_id _)).symm
    exact if_neg (by simpa using List.find?_eq_none.1 found g there)
  | some g =>
    obtain ⟨t, written, groups, -⟩ := Store.updateMembers_known hs.reachable.tidy found modify
    rw [written]
    exact groups

theorem groups_delete (hs : s.Sound) :
    (s.step settings (.delete u)).world.store.groups =
      s.world.store.groups.filter fun g => g.uuid ≠ u := by
  rw [step, Act.deleteGroup, hs.run_write]
  cases found : s.world.store.groups.find? fun g => g.uuid = u with
  | none =>
    rw [Store.deleteGroup_unknown found]
    refine (List.filter_eq_self.2 fun g there => ?_).symm
    simpa using List.find?_eq_none.1 found g there
  | some g =>
    obtain ⟨t, written, groups, -⟩ := Store.deleteGroup_known hs.reachable.tidy found
    rw [written]
    exact groups

/-- Members joining one group, told for all groups. -/
theorem map_modified (gs : List Group) (ids : List AccountId) :
    gs.map (Store.modified u fun m => m.insertAll ids) =
      gs.map fun g => g.joinedBy (if u = g.uuid then ids else []) := by
  refine List.map_congr_left fun g _ => ?_
  unfold Store.modified
  by_cases here : g.uuid = u
  · rw [if_pos here, if_pos here.symm]
    rfl
  · rw [if_neg here, if_neg (Ne.symm here)]
    rfl

/-- Unless it deletes, a move leaves each group with the members that it has gained. -/
theorem groups_step (hs : s.Sound) {m : Move} (keeps : ∀ u, m ≠ .delete u) :
    (s.step settings m).world.store.groups =
      s.world.store.groups.map fun g => g.joinedBy (s.gained settings g.uuid m) := by
  have same : s.world.store.groups = s.world.store.groups.map fun g => g.joinedBy [] := by
    simp
  cases m with
  | identify c id =>
    rw [world_identify]
    exact same
  | openGroup c text =>
    rw [world_openGroup]
    exact same
  | add c tokens =>
    simp only [step, gained]
    cases (s.client c).opened with
    | none => exact same
    | some o =>
      dsimp only
      cases run : (addMembers settings (s.client c).caller o tokens).run s.world with
      | mk result w =>
        rcases groups_of_addMembers hs.works (hs.callers c) run with
          ⟨e, rfl, groups⟩ | ⟨u, infos, here, rfl, groups⟩
        · exact groups.trans same
        · rw [here]
          simp only [Option.some.injEq]
          exact groups.trans (map_modified _ _)
  | update u ids => exact (groups_of_updateMembers hs _).trans (map_modified _ _)
  | delete u => exact absurd rfl (keeps u)

/-- A move leaves a group that it does not delete with the members that it has gained. -/
theorem mem_step (hs : s.Sound) (hg : g ∈ s.world.store.groups) {m : Move}
    (kept : m ≠ .delete g.uuid) :
    g.joinedBy (s.gained settings g.uuid m) ∈ (s.step settings m).world.store.groups := by
  by_cases deletes : ∃ u, m = .delete u
  · obtain ⟨u, rfl⟩ := deletes
    have other : g.uuid ≠ u := fun same => kept (same ▸ rfl)
    rw [groups_delete hs]
    exact List.mem_filter.2 ⟨hg, decide_eq_true other⟩
  · rw [groups_step hs fun u same => deletes ⟨u, same⟩]
    exact List.mem_map_of_mem hg

/-- The store does not have the group. -/
def Lacks (s : Sessions) (u : Uuid) : Prop :=
  ∀ g ∈ s.world.store.groups, g.uuid ≠ u

theorem lacks_delete (hs : s.Sound) : (s.step settings (.delete u)).Lacks u := by
  unfold Lacks
  rw [groups_delete hs]
  exact fun g there => by simpa using (List.mem_filter.1 there).2

/-- No move brings a group back. -/
theorem Lacks.step (h : s.Lacks u) (hs : s.Sound) (m : Move) : (s.step settings m).Lacks u := by
  by_cases deletes : ∃ v, m = .delete v
  · obtain ⟨v, rfl⟩ := deletes
    unfold Lacks
    rw [groups_delete hs]
    exact fun g there => h g (List.mem_of_mem_filter there)
  · unfold Lacks
    rw [groups_step hs fun v same => deletes ⟨v, same⟩]
    intro g there
    obtain ⟨o, old, rfl⟩ := List.mem_map.1 there
    exact h o old

variable {moves : List Move}

theorem Sound.play (hs : s.Sound) (moves : List Move) : (s.play settings moves).Sound := by
  induction moves generalizing s with
  | nil => exact hs
  | cons m moves ih => exact ih (hs.step m)

theorem mem_play (hs : s.Sound) (hg : g ∈ s.world.store.groups) (kept : .delete g.uuid ∉ moves) :
    g.joinedBy (gains settings g.uuid s moves) ∈ (s.play settings moves).world.store.groups := by
  induction moves generalizing s g with
  | nil => exact hg
  | cons m moves ih =>
    rw [List.mem_cons, not_or] at kept
    have first : g.joinedBy (s.gained settings g.uuid m) ∈
        (s.step settings m).world.store.groups := mem_step hs hg (Ne.symm kept.1)
    have rest := ih (hs.step m) first kept.2
    rw [Group.joinedBy_joinedBy] at rest
    exact rest

theorem Lacks.play (h : s.Lacks u) (hs : s.Sound) (moves : List Move) :
    (s.play settings moves).Lacks u := by
  induction moves generalizing s with
  | nil => exact h
  | cons m moves ih => exact ih (h.step hs m) (hs.step m)

theorem lacks_play (hs : s.Sound) (gone : .delete u ∈ moves) :
    (s.play settings moves).Lacks u := by
  induction moves generalizing s with
  | nil => cases gone
  | cons m moves ih =>
    rcases List.mem_cons.1 gone with rfl | later
    · exact (lacks_delete hs).play (hs.step _) moves
    · exact ih (hs.step m) later

/-- However clients take turns, a group that is not deleted ends with the members it had and all
that were added to old copies of it or by direct updates. Once it is deleted it stays away, and
adding to an old copy of it fails as not found. -/
theorem old_copies_lose_nothing (settings : Settings) {w : World} {g : Group}
    (hs : w.store.Reachable) (hf : w.failing = []) (writable : w.readOnly = false)
    (hg : g ∈ w.store.groups) (moves : List Move) :
    let s := (start w).play settings moves
    (.delete g.uuid ∉ moves →
        g.joinedBy (gains settings g.uuid (start w) moves) ∈ s.world.store.groups) ∧
      (.delete g.uuid ∈ moves → (∀ h ∈ s.world.store.groups, h.uuid ≠ g.uuid) ∧
        ∀ c o tokens as v, (s.client c).opened = some o → o.uuid? = some g.uuid →
          o.access.canAddMember = true → tokens ≠ [] →
          Resolves settings (s.client c).caller s.world tokens as v →
          (∀ a ∈ as, a.active = true) →
          ∃ e, (addMembers settings (s.client c).caller o tokens).run s.world = (.error e, v) ∧
            e.status = 404) := by
  have sound := sound_start hs hf writable
  refine ⟨mem_play sound hg, fun gone => ?_⟩
  have lacks : ((start w).play settings moves).Lacks g.uuid := lacks_play sound gone
  have after : ((start w).play settings moves).Sound := sound.play moves
  refine ⟨lacks, fun c o tokens as v opened kept can asked resolved active => ?_⟩
  refine ⟨_, addMembers_absent lacks after.works kept can ?_ asked resolved active, rfl⟩
  exact after.users c o opened can

/-- Two clients of the owner open the team. The second one adds to the copy it has from before the
first one and a direct update have added their members. -/
def turns : List Move :=
  [.identify 0 ⟨1000⟩, .openGroup 0 "team", .identify 1 ⟨1000⟩, .openGroup 1 "1",
    .add 0 ["guest"], .update soloTeam.uuid [⟨1002⟩], .add 1 ["1000", "guest"]]

/-- The settings of a site where users come from a directory. -/
def fromDirectory : Settings :=
  { Settings.default with authType := .ldap }

/-- The team has all of its new members, and after it is deleted the second client is told that it
is not found. -/
theorem turns_lose_nothing :
    soloTeam.joinedBy [⟨1001⟩, ⟨1002⟩, ⟨1000⟩, ⟨1001⟩] ∈
        ((start soloWorld).play fromDirectory turns).world.store.groups ∧
      let s := (start soloWorld).play fromDirectory (turns ++ [.delete soloTeam.uuid])
      ∃ o e, (s.client 1).opened = some o ∧
        ((addMembers fromDirectory (s.client 1).caller o ["guest"]).run s.world).1 = .error e ∧
        e.status = 404 := by
  have members : gains fromDirectory soloTeam.uuid (start soloWorld) turns =
      [⟨1001⟩, ⟨1002⟩, ⟨1000⟩, ⟨1001⟩] := by decide +kernel
  refine ⟨?_, ⟨.stored soloTeam, ⟨true, true, false, true⟩⟩, ?_⟩
  · rw [← members]
    exact (old_copies_lose_nothing fromDirectory reachable_soloWorld rfl rfl List.mem_cons_self
      turns).1 (by decide)
  · have opened : (((start soloWorld).play fromDirectory
        (turns ++ [.delete soloTeam.uuid])).client 1).opened =
          some ⟨.stored soloTeam, ⟨true, true, false, true⟩⟩ := by decide +kernel
    have after := ((old_copies_lose_nothing fromDirectory reachable_soloWorld rfl rfl
      List.mem_cons_self (turns ++ [.delete soloTeam.uuid])).2 (by decide)).2
    obtain ⟨e, failed, missing⟩ := after 1 _ ["guest"] [⟨⟨1001⟩, some "guest", none, none, true, 0⟩]
      _ opened rfl rfl (by decide) (.cons (Prod.ext (by decide +kernel) rfl) (.nil _)) (by decide)
    exact ⟨e, opened, congrArg Prod.fst failed, missing⟩

end Sessions

end CodeReview
