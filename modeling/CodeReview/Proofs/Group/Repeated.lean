import CodeReview.Proofs.Account.Repeated
import CodeReview.Proofs.Group.Membership
import CodeReview.Proofs.Group.Opening
set_option autoImplicit false

/-!
Adding members once more, right after they were added. The group is opened again, wider than
before, the tokens lead to the same accounts, and there is nothing left to write.
-/
namespace CodeReview
open Act

/-- The same world at another time. -/
def World.later (w : World) (now : Int64) : World :=
  { w with now := now }

section
variable {settings : Settings} {caller : Caller} {tokens : List String} {widen : Group → Group}
  {w v v' w' x : World} {as : List Account} {uuid : Uuid} {ids : List AccountId}

theorem Resolves.provisions (h : Resolves settings caller v tokens as v') :
    ∃ created, v.Provisions created v' := by
  induction h with
  | nil v => exact ⟨[], .refl v⟩
  | cons ha _ ih =>
    obtain ⟨first, hfirst⟩ := provisions_of_resolveAccount ha
    obtain ⟨rest, hrest⟩ := ih
    exact ⟨first ++ rest, hfirst.trans hrest⟩

theorem Resolves.run_resolveAll (h : Resolves settings caller v tokens as v')
    (active : ∀ a ∈ as, a.active = true) (found : List AccountId) :
    (resolveAll settings caller found tokens).run v =
      (.ok ((as.map Account.id).foldl keepFirst found), v') := by
  induction h generalizing found with
  | nil v => rfl
  | @cons v u v' token tokens a as ha _ ih =>
    have head : (resolveActive settings caller token).run v = (.ok a.id, u) := by
      rw [run_resolveActive, ha]
      dsimp only
      rw [if_pos (active a List.mem_cons_self)]
    rw [resolveAll, run_bind_of_ok head]
    exact ih (fun b hb => active b (List.mem_cons_of_mem a hb)) (keepFirst found a.id)

/-- A batch is resolved to the same accounts again. Each of its tokens was resolved in a world on
the way to the later one. -/
theorem Resolves.again {created : List Account} (past : w.Past x) (way : w.Provisions created v)
    (resolved : Resolves settings caller v tokens as v') (grows : v'.store.Grows widen x.store)
    (settled : ∀ p ∈ tokens.zip as, Text.trim p.1 ≠ "self" →
      w.store.Settled settings caller x.store p.1 p.2) :
    ∃ x', Resolves settings caller x tokens as x' ∧ x.Provisions [] x' := by
  induction resolved generalizing x created with
  | nil v => exact ⟨x, .nil x, .refl x⟩
  | @cons v u v' token tokens a as h rest ih =>
    obtain ⟨first, step⟩ := provisions_of_resolveAccount h
    obtain ⟨others, following⟩ := rest.provisions
    -- The accounts that the rest of the batch created are new to this token as well.
    obtain ⟨y, head, same⟩ := (resolveAccount_again_iff past way
      (following.store.grows.trans grows) h).2 (settled (token, a) List.mem_cons_self)
    have store : y.store = x.store := same.store.eq_of_nil
    rw [← store] at grows settled
    obtain ⟨z, tail, last⟩ := ih (past.next same) (way.trans step) grows
      fun p hp => settled p (List.mem_cons_of_mem (token, a) hp)
    exact ⟨z, .cons head tail, same.trans last⟩

theorem reachable_of_addIds (hs : w.store.Reachable)
    (h : (addIds uuid ids).run w = (.ok (), w')) : w'.store.Reachable := by
  rcases addIds_cases h with ⟨rfl, -⟩ | ⟨g, s, written, rfl, -⟩
  · exact hs
  · exact hs.write (.updateMembers written)

theorem grows_of_addIds (hs : w.store.Tidy) (h : (addIds uuid ids).run w = (.ok (), w')) :
    w.store.Grows (Store.modified uuid fun m => m.insertAll ids) w'.store := by
  rcases addIds_cases h with ⟨rfl, none⟩ | ⟨g, s, written, rfl, -⟩
  · obtain rfl := none rfl
    refine ⟨rfl, ⟨[], by simp⟩, Store.widens_modified uuid [], ?_⟩
    rw [List.map_congr_left fun g _ => modified_insertAll_nil g, List.map_id']
  · exact Store.grows_of_updateMembers hs written

theorem modified_twice (g : Group) :
    Store.modified uuid (fun m => m.insertAll ids)
        (Store.modified uuid (fun m => m.insertAll ids) g) =
      Store.modified uuid (fun m => m.insertAll ids) g := by
  by_cases here : g.uuid = uuid
  · have twice : (g.members.insertAll ids).insertAll ids = g.members.insertAll ids :=
      AccountSet.ext fun a => by rw [AccountSet.mem_insertAll, AccountSet.mem_insertAll]; tauto
    simp only [Store.modified, here, if_true, twice]
  · simp only [Store.modified, here, if_false]

/-- Members that are there already are added without a change. -/
theorem addIds_again (gs : List Group) {g : Group} (hx : x.failing = []) (tidy : x.store.Tidy)
    (there : g ∈ x.store.groups)
    (added : x.store.groups = gs.map (Store.modified g.uuid fun m => m.insertAll ids)) :
    (addIds g.uuid ids).run x = (.ok (), x) := by
  match ids with
  | [] => rfl
  | id :: ids =>
    obtain ⟨o, found⟩ : ∃ o, x.store.groups.find? (fun h => h.uuid = g.uuid) = some o := by
      rw [← Option.isSome_iff_exists, List.find?_isSome]
      exact ⟨g, there, by simp⟩
    obtain ⟨t, written, groups, -⟩ :=
      Store.updateMembers_known tidy found fun m => m.insertAll (id :: ids)
    have same : t = x.store := by
      refine Store.eq_of_updateMembers written ?_
      rw [groups, added, List.map_map]
      exact List.map_congr_left fun h _ => modified_twice h
    have ok : (Act.updateMembers g.uuid fun m => m.insertAll (id :: ids)).run x = (.ok _, x) :=
      run_write_eq_ok.2 ⟨by simp [hx], t, written, fun _ => same, by rw [same]⟩
    rw [addIds, run_bind_of_ok (run_mapError_eq_ok.2 ok)]
    · rfl
    · simp

/-- What is shown of an account depends on the store alone. -/
theorem run_requiredSummary_of_store (hw : w.failing = []) (hx : x.failing = [])
    (store : x.store = w.store) {id : AccountId} {info : AccountSummary}
    (h : (requiredSummary true id).run w = (.ok info, w)) :
    (requiredSummary true id).run x = (.ok info, x) := by
  rw [requiredSummary, run_bind_of_ok (run_findAccount_of_works hw id)] at h
  rw [requiredSummary, run_bind_of_ok (run_findAccount_of_works hx id), store]
  cases found : w.store.accounts.find? fun a => a.id = id with
  | none =>
    rw [found] at h
    cases h
  | some a =>
    rw [found] at h
    cases h
    rfl

theorem run_summaries_of_store (hw : w.failing = []) (hx : x.failing = [])
    (store : x.store = w.store) {infos : List AccountSummary}
    (h : (summaries (requiredSummary true) ids).run w = (.ok infos, w)) :
    (summaries (requiredSummary true) ids).run x = (.ok infos, x) := by
  induction ids generalizing infos with
  | nil =>
    cases h
    rfl
  | cons id ids ih =>
    obtain ⟨info, y, first, h⟩ := run_bind_eq_ok.1 h
    obtain rfl := (ungrouped_requiredSummary true id).reads.world_eq first
    obtain ⟨rest, z, others, h⟩ := run_bind_eq_ok.1 h
    obtain rfl := ((ungrouped_summaries (ungrouped_requiredSummary true) ids).reads).world_eq others
    cases h
    rw [summaries, run_bind_of_ok (run_requiredSummary_of_store hw hx store first),
      run_bind_of_ok (ih others)]
    rfl

end

def firstIds (as : List Account) : List AccountId :=
  (as.map Account.id).foldl keepFirst []

/-- A batch of tokens was resolved to accounts and added to a group. -/
structure Added (settings : Settings) (caller : Caller) (w : World) (g : Group)
    (tokens : List String) (as : List Account) (infos : List AccountSummary) (w' : World) :
    Prop where
  user : ∃ c, caller = .user c
  active : ∀ a ∈ as, a.active = true
  written : ∃ v, Resolves settings caller w tokens as v ∧
    (addIds g.uuid (firstIds as)).run v = (.ok (), w')
  shown : (summaries (requiredSummary true) (firstIds as)).run w' = (.ok infos, w')

section
variable {settings : Settings} {caller : Caller} {tokens : List String} {w w' x : World}
  {g : Group} {access : GroupAccess} {as : List Account} {infos : List AccountSummary}
  {id token : String}

/-- A user who may add members gets as far as the tokens. -/
theorem addMembers_of_can (can : access.canAddMember = true) (c : Account) :
    (addMembers settings (.user c) ⟨.stored g, access⟩ tokens).run w =
      (resolveAll settings (.user c) [] tokens >>= fun ids =>
        addIds g.uuid ids >>= fun _ => summaries (requiredSummary true) ids).run w := by
  rw [addMembers, OpenGroup.stored, run_bind_of_ok (run_ofExcept _ _), Caller.requireUser,
    run_bind_of_ok (run_ofExcept _ _), can, Bool.not_true, if_neg Bool.false_ne_true]

theorem addMembers_eq_ok :
    (addMembers settings caller ⟨.stored g, access⟩ tokens).run w = (.ok infos, w') ↔
      access.canAddMember = true ∧ ∃ as, Added settings caller w g tokens as infos w' := by
  constructor
  · intro h
    obtain ⟨-, e, failed⟩ | ⟨o, c, ⟨⟩, rfl, can, stages⟩ := addMembers_cases h
    · cases failed
    refine ⟨can, ?_⟩
    obtain ⟨e, -, failed⟩ | ⟨ids, v, resolved, stages⟩ := stages
    · cases failed
    obtain ⟨e, -, failed⟩ | ⟨u, written, shown⟩ := stages
    · cases failed
    obtain rfl := ((ungrouped_summaries (ungrouped_requiredSummary true) ids).reads).world_eq shown
    obtain ⟨as, way, active, rfl⟩ := resolveAll_eq_ok resolved
    exact ⟨as, ⟨c, rfl⟩, active, ⟨v, way, written⟩, shown⟩
  · rintro ⟨can, as, ⟨c, rfl⟩, active, ⟨v, resolved, written⟩, shown⟩
    have ids : (resolveAll settings (.user c) [] tokens).run w = (.ok (firstIds as), v) :=
      resolved.run_resolveAll active []
    rw [addMembers_of_can can, run_bind_of_ok ids]
    exact (run_bind_of_ok written).trans shown

/-- Members are added as well with blanks around their tokens. -/
theorem addMembers_of_trim {r : OpenGroup}
    (h : (addMembers settings caller r (tokens.map Text.trim)).run w = (.ok infos, w')) :
    (addMembers settings caller r tokens).run w = (.ok infos, w') := by
  obtain ⟨group, access⟩ := r
  cases group with
  | external id name => exact h
  | stored g =>
    obtain ⟨can, as, added⟩ := addMembers_eq_ok.1 h
    obtain ⟨v, resolved, written⟩ := added.written
    exact addMembers_eq_ok.2 ⟨can, as, added.user, added.active, ⟨v, resolved.of_trim, written⟩,
      added.shown⟩

namespace Added

theorem provisions (h : Added settings caller w g tokens as infos w') :
    ∃ created v, w.Provisions created v ∧ (addIds g.uuid (firstIds as)).run v = (.ok (), w') ∧
      w'.failing = w.failing ∧ w.directory.After w'.directory := by
  obtain ⟨v, resolved, written⟩ := h.written
  obtain ⟨created, way⟩ := resolved.provisions
  refine ⟨created, v, way, written, (addIds_eq_ok written).2.2.2.trans way.failing, ?_⟩
  rcases addIds_cases written with ⟨rfl, -⟩ | ⟨-, s, -, rfl, -⟩
  · exact way.directory
  · exact way.directory

/-- The group has the new members, and nothing of what there was is lost. -/
theorem grows (h : Added settings caller w g tokens as infos w') (hs : w.store.Reachable) :
    w.store.Grows (Store.modified g.uuid fun m => m.insertAll (firstIds as)) w'.store := by
  obtain ⟨created, v, way, written, -⟩ := h.provisions
  exact way.store.grows.trans (grows_of_addIds (way.store.reachable hs).tidy written)

theorem past (h : Added settings caller w g tokens as infos w') (hs : w.store.Reachable)
    (hf : w.failing = []) (steady : w.directory.Steady) (now : Int64) :
    w.Past (w'.later now) := by
  obtain ⟨created, v, way, written, failing, directory⟩ := h.provisions
  have after : w'.store.Reachable := reachable_of_addIds (way.store.reachable hs) written
  exact ⟨hs, after, (h.grows hs).accounts, ⟨hf, failing.trans hf⟩, steady, directory⟩

/-- The batch is added again without a change, to the group as it is then. -/
theorem again (h : Added settings caller w g tokens as infos w') {now : Int64}
    (past : w.Past (w'.later now)) (hg : g ∈ w.store.groups)
    (settled : ∀ p ∈ tokens.zip as, Settled settings caller w w' p.1 p.2) :
    ∃ x', Added settings caller (w'.later now)
        (Store.modified g.uuid (fun m => m.insertAll (firstIds as)) g) tokens as infos x' ∧
      (w'.later now).Provisions [] x' := by
  obtain ⟨v, resolved, written⟩ := h.written
  obtain ⟨created, way⟩ := resolved.provisions
  have growth := h.grows past.before
  have before : w'.failing = [] := past.works.2
  have widened := grows_of_addIds (way.store.reachable past.before).tidy written
  have kept : ∀ p ∈ tokens.zip as, Text.trim p.1 ≠ "self" →
      w.store.Settled settings caller w'.store p.1 p.2 := fun p hp other =>
    (settled p hp).stores past.works.1 before other
  obtain ⟨x', again, same⟩ := Resolves.again past (.refl w) resolved widened kept
  have store : x'.store = w'.store := same.store.eq_of_nil
  have works : x'.failing = [] := same.failing.trans past.works.2
  refine ⟨x', ⟨h.user, h.active, ⟨x', again, ?_⟩, ?_⟩, same⟩
  · refine addIds_again w.store.groups works ?_ ?_ ?_
    · exact store ▸ past.after.tidy
    · rw [store, growth.groups]
      exact List.mem_map_of_mem hg
    · rw [store, (growth.widens g).uuid]
      exact growth.groups
  · exact run_summaries_of_store before works store h.shown

/-- One token is resolved to one account, and that account is shown. -/
theorem single (h : Added settings caller w g [token] as infos w') :
    ∃ a info v, as = [a] ∧ infos = [info] ∧
      (resolveAccount settings caller token).run w = (.ok a, v) ∧
      (requiredSummary true a.id).run w' = (.ok info, w') := by
  obtain ⟨u, resolved, -⟩ := h.written
  cases resolved with
  | @cons _ v _ _ _ a _ first rest =>
    cases rest with
    | nil =>
      obtain ⟨info, y, shown, others⟩ := run_bind_eq_ok.1 h.shown
      obtain rfl := (ungrouped_requiredSummary true a.id).reads.world_eq shown
      cases others
      exact ⟨a, info, _, rfl, rfl, first, shown⟩

end Added

end

section
variable {settings : Settings} {caller : Caller} {tokens : List String} {w w' : World}
  {g : Group} {access : GroupAccess} {infos : List AccountSummary} {id : String}

/-- A batch that was added is added again to the group as it is then, and nothing changes. -/
theorem addMembers_again (hs : w.store.Reachable) (hf : w.failing = [])
    (steady : w.directory.Steady)
    (opened : (openGroup settings caller id).run w = (.ok ⟨.stored g, access⟩, w))
    (h : (addMembers settings caller ⟨.stored g, access⟩ tokens).run w = (.ok infos, w'))
    (settled : ∀ as v, Resolves settings caller w tokens as v → ∀ p ∈ tokens.zip as,
      Settled settings caller w w' p.1 p.2) (now : Int64) :
    w.Past (w'.later now) ∧ ∃ r x',
      (openGroup settings caller id).run (w'.later now) = (.ok r, w'.later now) ∧
      (addMembers settings caller r tokens).run (w'.later now) = (.ok infos, x') ∧
      (w'.later now).Provisions [] x' := by
  obtain ⟨can, as, batch⟩ := addMembers_eq_ok.1 h
  have past := batch.past hs hf steady now
  have known : g ∈ w.store.groups := mem_of_findGroupReference (openGroup_eq_ok opened).2.1
  obtain ⟨access, reopened, still⟩ := openGroup_again hf past.works.2 (batch.grows hs) opened
  obtain ⟨v, resolved, -⟩ := batch.written
  obtain ⟨x', again, same⟩ := batch.again past known (settled as v resolved)
  exact ⟨past, _, x', reopened, addMembers_eq_ok.2 ⟨still can, as, again⟩, same⟩

end

def PutOutcome.summary : PutOutcome → AccountSummary
  | .existing info => info
  | .added info => info

section
variable {settings : Settings} {caller : Caller} {w w' x : World} {g : Group}
  {access : GroupAccess} {r : OpenGroup} {token : String} {a : Account} {m : Matches}
  {info : AccountSummary} {out : PutOutcome}

theorem parseAccount_eq_ok :
    (parseAccount settings caller token).run w = (.ok a, w) ↔
      ∃ m, (lookupAccounts settings caller token).run w = (.ok m, w) ∧ m.visible = [a] := by
  constructor
  · intro h
    obtain ⟨m, v, looked, one⟩ := run_bind_eq_ok.1 h
    obtain rfl := (reads_lookupAccounts settings caller token).world_eq looked
    exact ⟨m, looked, unique_eq_ok.1 (Prod.mk.inj one).1⟩
  · rintro ⟨m, looked, one⟩
    rw [parseAccount, run_bind_of_ok looked, unique_eq_ok.2 one, run_ofExcept]

theorem findMember_eq_some :
    (findMember settings caller ⟨.stored g, access⟩ token).run w = (.ok (some info), w) ↔
      ∃ m a, (lookupAccounts settings caller token).run w = (.ok m, w) ∧ m.visible = [a] ∧
        g.hasMember a.id = true ∧ (requiredSummary true a.id).run w = (.ok info, w) := by
  have reads := (reads_parseAccount settings caller token).run_eq w
  rw [findMember, OpenGroup.stored, run_bind_of_ok (run_ofExcept _ _), run_bind, run_outcome]
  constructor
  · intro h
    cases parsed : ((parseAccount settings caller token).run w).1 with
    | error e =>
      rw [parsed] at h
      dsimp only at h
      split at h <;> cases h
    | ok a =>
      rw [parsed] at h reads
      obtain ⟨m, looked, one⟩ := parseAccount_eq_ok.1 reads
      rw [reads] at h
      dsimp only at h
      split at h
      · next member =>
        obtain ⟨found, v, shown, rest⟩ := run_bind_eq_ok.1 h
        cases rest
        exact ⟨m, a, looked, one, member, shown⟩
      · cases h
  · rintro ⟨m, a, looked, one, member, shown⟩
    rw [parseAccount_eq_ok.2 ⟨m, looked, one⟩]
    dsimp only
    rw [if_pos member, run_bind_of_ok shown]
    rfl

theorem findMember_of_nothing
    (h : (lookupAccounts settings caller token).run w = (.ok ⟨[], 0⟩, w)) :
    (findMember settings caller ⟨.stored g, access⟩ token).run w = (.ok none, w) := by
  have missing : (parseAccount settings caller token).run w =
      (.error (.accountMissing token), w) := by
    rw [parseAccount, run_bind_of_ok h]
    rfl
  rw [findMember, OpenGroup.stored, run_bind_of_ok (run_ofExcept _ _), run_bind, run_outcome,
    missing]
  rfl

theorem putMember_eq_ok :
    (putMember settings caller r token).run w = (.ok out, w') ↔
      (∃ info, out = .existing info ∧ w' = w ∧
          (findMember settings caller r token).run w = (.ok (some info), w)) ∨
        ∃ infos info, out = .added info ∧ infos.getLast? = some info ∧
          (findMember settings caller r token).run w = (.ok none, w) ∧
          (addMembers settings caller r [token]).run w = (.ok infos, w') := by
  rw [putMember]
  constructor
  · intro h
    obtain ⟨found, v, member, rest⟩ := run_bind_eq_ok.1 h
    obtain rfl := (reads_findMember settings caller r token).world_eq member
    cases found with
    | some info =>
      cases rest
      exact .inl ⟨info, rfl, rfl, member⟩
    | none =>
      dsimp only at rest
      rw [run_bind, run_outcome] at rest
      cases added : (addMembers settings caller r [token]).run v with
      | mk result u =>
        rw [added] at rest
        cases result with
        | error e =>
          dsimp only at rest
          split at rest
          · cases rest
          · cases rest
        | ok infos =>
          dsimp only at rest
          split at rest
          · next info last =>
            cases rest
            exact .inr ⟨infos, info, rfl, last, member, rfl⟩
          · cases rest
  · rintro (⟨info, rfl, rfl, member⟩ | ⟨infos, info, rfl, last, member, added⟩)
    · rw [run_bind_of_ok member]
      rfl
    · rw [run_bind_of_ok member]
      dsimp only
      rw [run_bind, run_outcome, added]
      dsimp only
      rw [last]
      rfl

/-- A lookup does not read the clock. -/
theorem lookupAccounts_later (hf : w.failing = []) (now : Int64)
    (h : (lookupAccounts settings caller token).run w = (.ok m, w)) :
    (lookupAccounts settings caller token).run (w.later now) = (.ok m, w.later now) := by
  have later : (w.later now).failing = [] := hf
  by_cases self : Text.trim token = "self"
  · obtain ⟨-, c, rfl, rfl⟩ | ⟨other, -⟩ := lookupAccounts_eq_ok h
    · rw [lookupAccounts, if_pos self]
      rfl
    · exact absurd self other
  · rw [run_lookupAccounts hf self] at h
    rw [run_lookupAccounts later self, ← Except.ok.inj (Prod.mk.inj h).1]
    rfl

theorem hasMember_modified (g : Group) {ids : List AccountId} {id : AccountId} (h : id ∈ ids) :
    (Store.modified g.uuid (fun m => m.insertAll ids) g).hasMember id = true := by
  rw [Store.modified, if_pos rfl]
  exact AccountSet.contains_iff.2 (AccountSet.mem_insertAll.2 (.inl h))

/-- A member that was put is found or put again, and nothing changes. -/
theorem putMember_again {id : String} (hs : w.store.Reachable) (hf : w.failing = [])
    (steady : w.directory.Steady)
    (opened : (openGroup settings caller id).run w = (.ok ⟨.stored g, access⟩, w))
    (h : (putMember settings caller ⟨.stored g, access⟩ token).run w = (.ok out, w'))
    (settled : ∀ as v, Resolves settings caller w [token] as v → ∀ p ∈ [token].zip as,
      Settled settings caller w w' p.1 p.2) (now : Int64) :
    w.Past (w'.later now) ∧ ∃ r later x',
      (openGroup settings caller id).run (w'.later now) = (.ok r, w'.later now) ∧
      (putMember settings caller r token).run (w'.later now) = (.ok later, x') ∧
      later.summary = out.summary ∧ (w'.later now).Provisions [] x' := by
  rcases putMember_eq_ok.1 h with ⟨info, rfl, rfl, member⟩ | ⟨infos, info, rfl, last, -, added⟩
  · have works : (w'.later now).failing = [] := hf
    have past : w'.Past (w'.later now) :=
      ⟨hs, hs, ⟨[], by simp [World.later]⟩, ⟨hf, works⟩, steady, .refl⟩
    obtain ⟨m, a, looked, one, inside, shown⟩ := findMember_eq_some.1 member
    obtain ⟨access, reopened, -⟩ := openGroup_again hf works (.refl w'.store) opened
    refine ⟨past, _, .existing info, w'.later now, reopened, ?_, rfl, .refl _⟩
    refine putMember_eq_ok.2 (.inl ⟨info, rfl, rfl, findMember_eq_some.2 ?_⟩)
    exact ⟨m, a, lookupAccounts_later hf now looked, one, inside,
      run_requiredSummary_of_store hf works rfl shown⟩
  · obtain ⟨can, as, batch⟩ := addMembers_eq_ok.1 added
    obtain ⟨a, info, v, rfl, rfl, resolved, shown⟩ := batch.single
    cases last
    have past := batch.past hs hf steady now
    have works : w'.failing = [] := past.works.2
    have known : g ∈ w.store.groups := mem_of_findGroupReference (openGroup_eq_ok opened).2.1
    obtain ⟨access, reopened, still⟩ := openGroup_again hf past.works.2 (batch.grows hs) opened
    obtain ⟨x', again, same⟩ :=
      batch.again past known (settled [a] v (.cons resolved (.nil v)))
    obtain ⟨b, -, y, ⟨⟩, -, resolved', -⟩ := again.single
    -- Either the member is found now, or the store still knows nothing by this token.
    rcases resolveAccount_eq_ok resolved' with ⟨-, m, looked, one⟩ | ⟨-, -, nothing, -⟩
    · rw [lookupAccounts_trim] at looked
      refine ⟨past, _, .existing info, w'.later now, reopened, ?_, rfl, .refl _⟩
      refine putMember_eq_ok.2 (.inl ⟨info, rfl, rfl, findMember_eq_some.2 ?_⟩)
      exact ⟨m, a, looked, one, hasMember_modified g List.mem_cons_self,
        run_requiredSummary_of_store works past.works.2 rfl shown⟩
    · rw [lookupAccounts_trim] at nothing
      refine ⟨past, _, .added info, x', reopened, ?_, rfl, same⟩
      exact putMember_eq_ok.2 (.inr ⟨[info], info, rfl, rfl, findMember_of_nothing nothing,
        addMembers_eq_ok.2 ⟨still can, [a], again⟩⟩)

end

end CodeReview
