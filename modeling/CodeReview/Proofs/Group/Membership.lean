import CodeReview.Group.Membership
import CodeReview.Proofs.Account.Resolution
import CodeReview.Proofs.Group.Access
set_option autoImplicit false

/-!
Adding members to a group. The tokens of a batch are resolved one after the other, each in the
world that the ones before it left, and only then the group is written. So a batch is added as a
whole, or the groups stay as they were and at most some accounts of the directory are new.
-/
namespace CodeReview
open Act

/-- Accounts for tokens one after the other, each token in the world left by those before it. -/
inductive Resolves (settings : Settings) (caller : Caller) :
    World → List String → List Account → World → Prop where
  | nil (w : World) : Resolves settings caller w [] [] w
  | cons {w v w' : World} {token : String} {tokens : List String} {a : Account}
    {as : List Account} (h : (resolveAccount settings caller token).run w = (.ok a, v))
    (rest : Resolves settings caller v tokens as w') :
    Resolves settings caller w (token :: tokens) (a :: as) w'

section
variable {settings : Settings} {caller : Caller} {token : String} {tokens : List String}
  {w w' : World}

/-- Blanks around the tokens do not count. -/
theorem Resolves.of_trim {as : List Account}
    (h : Resolves settings caller w (tokens.map Text.trim) as w') :
    Resolves settings caller w tokens as w' := by
  induction tokens generalizing w as with
  | nil => exact h
  | cons token tokens ih =>
    cases h with
    | cons first rest => exact .cons (resolveAccount_trim settings caller token ▸ first) (ih rest)

theorem run_resolveActive :
    (resolveActive settings caller token).run w =
      match (resolveAccount settings caller token).run w with
      | (.ok a, v) => (if a.active then .ok a.id else .error (.accountInactive token), v)
      | (.error e, v) => (.error e, v) := by
  rw [resolveActive, run_bind]
  cases (resolveAccount settings caller token).run w with
  | mk q v =>
    cases q with
    | error e => rfl
    | ok a =>
      dsimp only
      split <;> rfl

theorem resolveActive_eq_ok {id : AccountId}
    (h : (resolveActive settings caller token).run w = (.ok id, w')) :
    ∃ a, (resolveAccount settings caller token).run w = (.ok a, w') ∧ a.active = true ∧
      a.id = id := by
  rw [run_resolveActive] at h
  split at h
  · next a v hr =>
    split at h
    · next active =>
      cases h
      exact ⟨a, hr, active, rfl⟩
    · simp at h
  · simp at h

theorem provisions_of_resolveActive {result : Except ApiError AccountId}
    (h : (resolveActive settings caller token).run w = (result, w')) :
    ∃ created, w.Provisions created w' := by
  rw [run_resolveActive] at h
  split at h
  · next hr =>
    cases h
    exact provisions_of_resolveAccount hr
  · next hr =>
    cases h
    exact provisions_of_resolveAccount hr

/-- Resolving a batch only adds accounts of the directory, wherever it stops. -/
theorem provisions_of_resolveAll {found : List AccountId}
    {result : Except ApiError (List AccountId)}
    (h : (resolveAll settings caller found tokens).run w = (result, w')) :
    ∃ created, w.Provisions created w' := by
  induction tokens generalizing found w with
  | nil =>
    cases h
    exact ⟨[], .refl _⟩
  | cons token tokens ih =>
    rw [resolveAll, run_bind] at h
    split at h
    · next id v hr =>
      obtain ⟨first, hfirst⟩ := provisions_of_resolveActive hr
      obtain ⟨rest, hrest⟩ := ih h
      exact ⟨first ++ rest, hfirst.trans hrest⟩
    · next hr =>
      cases h
      exact provisions_of_resolveActive hr

/-- Appends an id that is not yet in the list. -/
def keepFirst (found : List AccountId) (id : AccountId) : List AccountId :=
  if id ∈ found then found else found ++ [id]

theorem resolveAll_eq_ok {found ids : List AccountId}
    (h : (resolveAll settings caller found tokens).run w = (.ok ids, w')) :
    ∃ as, Resolves settings caller w tokens as w' ∧ (∀ a ∈ as, a.active = true) ∧
      ids = (as.map Account.id).foldl keepFirst found := by
  induction tokens generalizing found w with
  | nil =>
    cases h
    exact ⟨[], .nil _, by simp, rfl⟩
  | cons token tokens ih =>
    obtain ⟨id, v, hr, k⟩ := run_bind_eq_ok.1 h
    obtain ⟨a, ha, active, rfl⟩ := resolveActive_eq_ok hr
    obtain ⟨as, has, actives, rfl⟩ := ih k
    exact ⟨a :: as, .cons ha has, by simpa [active] using actives, rfl⟩

theorem mem_of_resolveAccount {a : Account}
    (hc : ∀ c, caller = .user c → c ∈ w.store.accounts)
    (h : (resolveAccount settings caller token).run w = (.ok a, w')) : a ∈ w'.store.accounts := by
  rcases resolveAccount_eq_ok h with ⟨rfl, m, hm, hv⟩ | ⟨-, -, -, missing, k⟩
  · rcases (sees_of_lookupAccounts hm a (by simp [hv])).2 with self | known
    · exact hc a self
    · exact known
  · obtain ⟨-, p, -, -, hg⟩ := resolveInDirectory_eq_ok.1 k
    exact (Store.mem_of_getAccount hg).1

theorem Resolves.mem {as : List Account} (h : Resolves settings caller w tokens as w')
    (hc : ∀ c, caller = .user c → c ∈ w.store.accounts) :
    (∃ created, w'.store.accounts = w.store.accounts ++ created) ∧
      ∀ a ∈ as, a ∈ w'.store.accounts := by
  induction h with
  | nil w => exact ⟨⟨[], by simp⟩, by simp⟩
  | cons ha _ ih =>
    obtain ⟨created, hp⟩ := provisions_of_resolveAccount ha
    have grown := hp.store.accounts
    obtain ⟨⟨more, hmore⟩, rest⟩ := ih fun c e => by simp [grown, hc c e]
    refine ⟨⟨created ++ more, by rw [hmore, grown, List.append_assoc]⟩, ?_⟩
    intro b hb
    rcases List.mem_cons.1 hb with rfl | hb
    · simp [hmore, mem_of_resolveAccount hc ha]
    · exact rest b hb

end

theorem foldl_keepFirst (found ids : List AccountId) :
    ids.foldl keepFirst found = found ++ (ids.filter fun id => id ∉ found).eraseDups := by
  induction ids generalizing found with
  | nil => simp
  | cons id ids ih =>
    rw [List.foldl_cons, ih, keepFirst]
    split
    · next seen => simp [seen]
    · next unseen =>
      rw [List.filter_cons_of_pos (by simpa using unseen), List.eraseDups_cons, List.filter_filter,
        List.append_assoc, List.singleton_append]
      congr 4
      funext b
      by_cases hb : b = id <;> simp [hb]

theorem nodup_keepFirst {found ids : List AccountId} (h : found.Nodup) :
    (ids.foldl keepFirst found).Nodup := by
  induction ids generalizing found with
  | nil => exact h
  | cons id ids ih =>
    rw [List.foldl_cons]
    refine ih ?_
    unfold keepFirst
    split
    · exact h
    · next unseen =>
      refine List.nodup_append.2 ⟨h, List.pairwise_singleton _ _, ?_⟩
      rintro b hb c hc rfl
      exact unseen (List.mem_singleton.1 hc ▸ hb)

theorem map_id_eraseDups (as : List Account)
    (distinct : ∀ a ∈ as, ∀ b ∈ as, a.id = b.id → a = b) :
    as.eraseDups.map Account.id = (as.map Account.id).eraseDups := by
  match as with
  | [] => simp
  | a :: as =>
    have same : (as.filter fun b => !b.id == a.id) = as.filter fun b => !b == a := by
      refine List.filter_congr fun b hb => ?_
      have := distinct b (by simp [hb]) a (by simp)
      by_cases e : b = a
      · simp [e]
      · have ne : b.id ≠ a.id := fun h => e (this h)
        simp [e, ne]
    have shorter : (as.filter fun b => !b == a).length ≤ as.length := List.length_filter_le _ _
    rw [List.map_cons, List.eraseDups_cons, List.eraseDups_cons, List.map_cons, List.filter_map,
      map_id_eraseDups (as.filter fun b => !b == a) fun b hb c hc =>
        distinct b (by simp [List.mem_of_mem_filter hb]) c (by simp [List.mem_of_mem_filter hc]),
      ← same]
    rfl
termination_by as.length

theorem run_requiredSummary {w : World} {a : Account} (hf : .getAccount ∉ w.failing)
    (hg : w.store.getAccount a.id = .ok a) :
    (requiredSummary true a.id).run w = (.ok (.detailed a), w) := by
  have found : (findAccount a.id).run w = (.ok (some a), w) := by
    rw [run_findAccount, if_neg hf, Store.getAccount_eq_ok.1 hg]
  rw [requiredSummary, run_bind_of_ok found]
  rfl

theorem run_summaries {w : World} {as : List Account} (hf : .getAccount ∉ w.failing)
    (hg : ∀ a ∈ as, w.store.getAccount a.id = .ok a) :
    (summaries (requiredSummary true) (as.map Account.id)).run w =
      (.ok (as.map .detailed), w) := by
  induction as with
  | nil => rfl
  | cons a as ih =>
    have first := run_requiredSummary hf (hg a (by simp))
    have rest := ih fun b hb => hg b (by simp [hb])
    rw [List.map_cons, summaries, run_bind_of_ok first, run_bind_of_ok rest]
    rfl

section
variable {settings : Settings} {caller : Caller} {r : OpenGroup} {tokens : List String}
  {w w' : World} {uuid : Uuid} {ids : List AccountId}

theorem addIds_cases {result : Except ApiError Unit}
    (h : (addIds uuid ids).run w = (result, w')) :
    (w' = w ∧ (result = .ok () → ids = [])) ∨
      ∃ g s, w.store.updateMembers uuid (fun m => m.insertAll ids) = .ok (g, s) ∧
        w' = { w with store := s } ∧ result = .ok () := by
  cases ids with
  | nil =>
    cases h
    exact .inl ⟨rfl, fun _ => rfl⟩
  | cons id ids =>
    rw [addIds, run_bind, run_mapError] at h
    · cases hu : (Act.updateMembers uuid fun m => m.insertAll (id :: ids)).run w with
      | mk q v =>
        rw [hu] at h
        cases q with
        | error e =>
          cases h
          exact .inl ⟨world_of_write_error hu, by simp⟩
        | ok g =>
          cases h
          obtain ⟨-, s, hs, -, rfl⟩ := run_write_eq_ok.1 hu
          exact .inr ⟨g, s, hs, rfl, rfl⟩
    · simp

theorem modified_insertAll_nil (g : Group) :
    Store.modified uuid (fun m => m.insertAll []) g = g := by
  unfold Store.modified
  split <;> rfl

theorem addIds_eq_ok (h : (addIds uuid ids).run w = (.ok (), w')) :
    w'.store.groups = w.store.groups.map (Store.modified uuid fun m => m.insertAll ids) ∧
      w'.store.accounts = w.store.accounts ∧ w'.store.changes = w.store.changes ∧
      w'.failing = w.failing := by
  rcases addIds_cases h with ⟨rfl, none⟩ | ⟨g, s, hs, rfl, -⟩
  · obtain rfl := none rfl
    refine ⟨?_, rfl, rfl, rfl⟩
    rw [List.map_congr_left fun g _ => modified_insertAll_nil g, List.map_id']
  · obtain ⟨groups, accounts, changes, -⟩ := Store.updateMembers_eq_ok hs
    exact ⟨groups, accounts, changes, rfl⟩

/-- Adding members stops at once, or while resolving, or when writing, or it comes to the end. -/
theorem addMembers_cases {result : Except ApiError (List AccountSummary)}
    (h : (addMembers settings caller r tokens).run w = (result, w')) :
    (w' = w ∧ ∃ e, result = .error e) ∨
      ∃ g c, r.group = .stored g ∧ caller = .user c ∧ r.access.canAddMember = true ∧
        ((∃ e, (resolveAll settings caller [] tokens).run w = (.error e, w') ∧
            result = .error e) ∨
          ∃ ids v, (resolveAll settings caller [] tokens).run w = (.ok ids, v) ∧
            ((∃ e, (addIds g.uuid ids).run v = (.error e, w') ∧ result = .error e) ∨
              ∃ u, (addIds g.uuid ids).run v = (.ok (), u) ∧
                (summaries (requiredSummary true) ids).run u = (result, w'))) := by
  rw [addMembers, run_bind, run_ofExcept, OpenGroup.stored] at h
  cases hg : r.group with
  | external id name =>
    rw [hg] at h
    cases h
    exact .inl ⟨rfl, _, rfl⟩
  | stored g =>
    rw [hg] at h
    dsimp only at h
    rw [run_bind, run_ofExcept] at h
    cases caller with
    | anonymous =>
      cases h
      exact .inl ⟨rfl, _, rfl⟩
    | user c =>
      simp only [Caller.requireUser] at h
      cases can : r.access.canAddMember with
      | false =>
        rw [can] at h
        cases h
        exact .inl ⟨rfl, _, rfl⟩
      | true =>
        rw [can, Bool.not_true, if_neg Bool.false_ne_true, run_bind] at h
        refine .inr ⟨g, c, rfl, rfl, rfl, ?_⟩
        split at h
        · next ids v hr =>
          refine .inr ⟨ids, v, hr, ?_⟩
          rw [run_bind] at h
          split at h
          · next u ha => exact .inr ⟨u, ha, h⟩
          · next e u ha =>
            cases h
            exact .inl ⟨e, ha, rfl⟩
        · next e v hr =>
          cases h
          exact .inl ⟨e, hr, rfl⟩

/-- Accounts were created and active accounts joined the members of a group, and nothing else
happened. -/
structure Store.Joined (s : Store) (g : Group) (ids : List AccountId) (created : List Account)
    (t : Store) : Prop where
  groups : t.groups = s.groups.map (modified g.uuid fun m => m.insertAll ids)
  accounts : t.accounts = s.accounts ++ created
  changes : t.changes = s.changes
  active : ∀ id ∈ ids, ∃ a ∈ t.accounts, a.id = id ∧ a.active = true
  still : t.groups = s.groups → created = [] → t = s

theorem World.Provisions.joined {created : List Account} (h : w.Provisions created w') (g : Group) :
    w.store.Joined g [] created w'.store where
  groups := by
    rw [h.store.groups, List.map_congr_left fun o _ => modified_insertAll_nil o, List.map_id']
  accounts := h.store.accounts
  changes := h.store.changes
  active := by simp
  still _ none := (none ▸ h.store).eq_of_nil

/-- Wherever adding members stops, at most a group has gained active members. -/
theorem joined_of_addMembers {result : Except ApiError (List AccountSummary)}
    (hc : ∀ c, caller = .user c → c ∈ w.store.accounts)
    (h : (addMembers settings caller r tokens).run w = (result, w')) :
    w' = w ∨ ∃ g ids created, r.group = .stored g ∧ r.access.canAddMember = true ∧
      w.store.Joined g ids created w'.store := by
  rcases addMembers_cases h with ⟨rfl, -⟩ | ⟨g, c, hg, -, can, stages⟩
  · exact .inl rfl
  right
  rcases stages with ⟨e, hall, -⟩ | ⟨ids, v, hall, stages⟩
  · obtain ⟨created, hp⟩ := provisions_of_resolveAll hall
    exact ⟨g, [], created, hg, can, hp.joined g⟩
  obtain ⟨created, hp⟩ := provisions_of_resolveAll hall
  rcases stages with ⟨e, hadd, -⟩ | ⟨u, hadd, hsum⟩
  · rcases addIds_cases hadd with ⟨rfl, -⟩ | ⟨_, _, _, _, hn⟩
    · exact ⟨g, [], created, hg, can, hp.joined g⟩
    · simp at hn
  obtain rfl := ((ungrouped_summaries (ungrouped_requiredSummary true) ids).reads).world_eq hsum
  obtain ⟨as, has, active, hids⟩ := resolveAll_eq_ok hall
  obtain ⟨groups, accounts, changes, -⟩ := addIds_eq_ok hadd
  refine ⟨g, ids, created, hg, can, ?_, ?_, ?_, ?_, ?_⟩
  · rw [groups, hp.store.groups]
  · rw [accounts, hp.store.accounts]
  · rw [changes, hp.store.changes]
  · intro id hid
    rw [hids, foldl_keepFirst, List.nil_append, List.mem_eraseDups, List.mem_filter] at hid
    obtain ⟨a, ha, rfl⟩ := List.mem_map.1 hid.1
    exact ⟨a, accounts ▸ (has.mem hc).2 a ha, rfl, active a ha⟩
  · rintro same rfl
    have begun := hp.store.eq_of_nil
    rcases addIds_cases hadd with ⟨rfl, -⟩ | ⟨o, s, hs, rfl, -⟩
    · exact begun
    · rw [← begun] at same ⊢
      exact Store.eq_of_updateMembers hs same

theorem reads_findMember (settings : Settings) (caller : Caller) (r : OpenGroup)
    (token : String) : Reads (findMember settings caller r token) := by
  refine (Reads.ofExcept _).bind fun g => (reads_parseAccount _ _ _).outcome.bind fun found => ?_
  split
  · exact Reads.ite ((ungrouped_requiredSummary _ _).reads.bind fun _ => Reads.pure _)
      (Reads.pure _)
  · exact Reads.ite (Reads.pure _) (Reads.fail _)

/-- Putting one member is reading, or adding a batch of one. -/
theorem putMember_cases {token : String} {result : Except ApiError PutOutcome}
    (h : (putMember settings caller r token).run w = (result, w')) :
    w' = w ∨ ∃ q, (addMembers settings caller r [token]).run w = (q, w') := by
  rcases (reads_findMember _ _ _ _).bind_cases h with rfl | ⟨found, -, k⟩
  · exact .inl rfl
  cases found with
  | some s => exact .inl ((Reads.pure _).world_eq k)
  | none =>
    obtain ⟨q, hq⟩ := Reads.run_of_bind (fun q => by
      split
      · split
        · exact Reads.pure _
        · exact Reads.fail _
      · exact Reads.ite (Reads.fail _) (Reads.fail _)) k
    exact .inr ⟨_, Prod.ext rfl (Prod.mk.inj hq).2⟩

theorem reads_listMembers (r : OpenGroup) : Reads (listMembers r) :=
  (Reads.ofExcept _).bind fun _ => Reads.ite (Reads.fail _)
    ((ungrouped_summaries (ungrouped_summaryOf true) _).reads.bind fun _ => Reads.pure _)

/-- A batch that succeeds is added as a whole and shown once for each account, in order of first
occurrence. One that fails leaves all groups as they were. -/
theorem addMembers_whole_or_nothing {viewer : AccountId} {id : String}
    {result : Except ApiError (List AccountSummary)} (hs : w.store.Reachable)
    (hf : w.failing = []) (hc : (identify viewer).run w = (.ok caller, w))
    (hr : (openGroup settings caller id).run w = (.ok r, w))
    (h : (addMembers settings caller r tokens).run w = (result, w')) :
    (∃ created, w'.store.accounts = w.store.accounts ++ created ∧
        ∀ a ∈ created, a.Known w.directory w.now) ∧
      w'.store.changes = w.store.changes ∧
      match result with
      | .error _ => w'.store.groups = w.store.groups
      | .ok infos => ∃ g ∈ w.store.groups, r.group = .stored g ∧
          (∃ as v, Resolves settings caller w tokens as v ∧ (∀ a ∈ as, a.active = true) ∧
            infos = as.eraseDups.map .detailed) ∧
          (infos.map AccountSummary.id).Nodup ∧
          w'.store.groups = w.store.groups.map
            (Store.modified g.uuid fun m => m.insertAll (infos.map AccountSummary.id)) := by
  obtain ⟨c, rfl, hcaller, -, -⟩ := identify_eq_ok hc
  have callers : ∀ b, Caller.user c = .user b → b ∈ w.store.accounts := by
    rintro b ⟨⟩
    exact (Store.mem_of_getAccount hcaller).1
  rcases addMembers_cases h with ⟨rfl, e, rfl⟩ | ⟨g, -, hg, -, -, stages⟩
  · exact ⟨⟨[], by simp, by simp⟩, rfl, rfl⟩
  rcases stages with ⟨e, hall, rfl⟩ | ⟨ids, v, hall, stages⟩
  · obtain ⟨created, hp⟩ := provisions_of_resolveAll hall
    exact ⟨⟨created, hp.store.accounts, hp.known⟩, hp.store.changes, hp.store.groups⟩
  obtain ⟨created, hp⟩ := provisions_of_resolveAll hall
  rcases stages with ⟨e, hadd, rfl⟩ | ⟨u, hadd, hsum⟩
  · rcases addIds_cases hadd with ⟨rfl, -⟩ | ⟨_, _, _, _, hn⟩
    · exact ⟨⟨created, hp.store.accounts, hp.known⟩, hp.store.changes, hp.store.groups⟩
    · simp at hn
  obtain ⟨as, has, active, hids⟩ := resolveAll_eq_ok hall
  obtain ⟨groups, accounts, changes, failing⟩ := addIds_eq_ok hadd
  have known := (has.mem callers).2
  have distinct := (hp.store.reachable hs).numbered.distinct
  have once : ids = as.eraseDups.map Account.id := by
    rw [map_id_eraseDups as, hids, foldl_keepFirst]
    · simp
    · intro a ha b hb e
      have ea := Store.find?_of_distinct distinct (known a ha)
      have eb := Store.find?_of_distinct distinct (known b hb)
      rw [e, eb] at ea
      exact (Option.some.inj ea).symm
  have found : ∀ a ∈ as.eraseDups, u.store.getAccount a.id = .ok a := by
    intro a ha
    rw [Store.getAccount_eq_ok, accounts]
    exact Store.find?_of_distinct distinct (known a (List.mem_eraseDups.1 ha))
  have readable : .getAccount ∉ u.failing := by simp [failing, hp.failing, hf]
  rw [once, run_summaries readable found] at hsum
  cases hsum
  have shown : (as.eraseDups.map AccountSummary.detailed).map AccountSummary.id = ids := by
    rw [once, List.map_map]
    rfl
  refine ⟨⟨created, by rw [accounts, hp.store.accounts], hp.known⟩,
    by rw [changes, hp.store.changes], g, ?_, hg, ⟨as, v, has, active, rfl⟩, ?_, ?_⟩
  · obtain ⟨-, named, -⟩ := openGroup_eq_ok hr
    rw [hg] at named
    exact mem_of_findGroupReference named
  · rw [shown, hids]
    exact nodup_keepFirst List.nodup_nil
  · rw [shown, groups, hp.store.groups]

end

/-- A group in lists that owns itself, with one member, and a directory that knows a guest. -/
def soloTeam : Group :=
  ⟨⟨List.replicate 16 7, rfl⟩, ⟨1⟩, "team", none, ⟨List.replicate 16 7, rfl⟩,
    .ofList [⟨1000⟩], false, 0⟩

def soloWorld : World where
  store := .memory ⟨[⟨⟨1000⟩, some "owner", none, none, true, 0⟩], 1001, [soloTeam], 2, []⟩
  failing := []
  directory := .listed [⟨⟨"guest", none, none⟩, none⟩]
  now := 0
  readOnly := false

theorem reachable_soloWorld : soloWorld.store.Reachable :=
  .write (.write .memory (.createAccount
      (show _ from rfl : Store.createAccount _ ⟨some "owner", none, none, true, 0⟩ = .ok (_, _))))
    (.createGroup (show _ from rfl : Store.createGroup _ ⟨List.replicate 16 7, rfl⟩
      ⟨"team", none, none, .ofList [⟨1000⟩], false, 0⟩ = .ok (_, _)))

theorem guest_joins :
    ∃ w', (addMembers { Settings.default with authType := .ldap }
        (.user ⟨⟨1000⟩, some "owner", none, none, true, 0⟩)
        ⟨.stored soloTeam, ⟨true, true, false, true⟩⟩ ["guest", "owner", "guest"]).run soloWorld =
          (.ok [⟨⟨1001⟩, none, none, some "guest", none⟩, ⟨⟨1000⟩, none, none, some "owner", none⟩],
            w') ∧
      w'.store.groups = soloWorld.store.groups.map
        (Store.modified soloTeam.uuid fun m => m.insertAll [⟨1001⟩, ⟨1000⟩]) := by
  refine ⟨_, rfl, ?_⟩
  obtain ⟨-, -, g, -, hg, -, -, groups⟩ := addMembers_whole_or_nothing reachable_soloWorld rfl
    (show (identify ⟨1000⟩).run soloWorld = (.ok _, _) from rfl)
    (show (openGroup _ _ "team").run soloWorld = (.ok _, _) from rfl)
    (show (addMembers { Settings.default with authType := .ldap }
        (.user ⟨⟨1000⟩, some "owner", none, none, true, 0⟩)
        ⟨.stored soloTeam, ⟨true, true, false, true⟩⟩ ["guest", "owner", "guest"]).run soloWorld =
          (.ok [⟨⟨1001⟩, none, none, some "guest", none⟩, ⟨⟨1000⟩, none, none, some "owner", none⟩],
            _) from rfl)
  cases hg
  exact groups

end CodeReview
