import CodeReview.Proofs.Group.Repeated
set_option autoImplicit false

/-!
Errors after the write. Adding members writes the group and then reads the accounts to show them.
Where that reading fails, the request ends in an error although the members have joined; in all
other cases an error means that the members are those there were before.
-/
namespace CodeReview
open Act

/-- The members of a group that the store has. -/
def Store.members? (s : Store) (u : Uuid) : Option AccountSet :=
  (s.groups.find? fun g => g.uuid = u).map Group.members

/-- If the request ended in an error, the opened group has the members it had before. -/
def Truthful {α : Type} (r : OpenGroup) (w : World) (p : Except ApiError α × World) : Prop :=
  ∀ e u, p.1 = .error e → r.uuid? = some u → p.2.store.members? u = w.store.members? u

/-- The account can be read, so that it can be shown. -/
def World.Shows (w : World) (id : AccountId) : Prop :=
  .getAccount ∉ w.failing ∧ ∃ a ∈ w.store.accounts, a.id = id

/-- The tokens are resolved, one of the accounts is new to the group and the group is written, but
one of the accounts cannot be shown. -/
structure Unreported (settings : Settings) (caller : Caller) (r : OpenGroup)
    (tokens : List String) (w : World) (g : Group) (ids : List AccountId) (v : World) : Prop where
  stored : r.group = .stored g
  can : r.access.canAddMember = true
  user : ∃ c, caller = .user c
  resolved : (resolveAll settings caller [] tokens).run w = (.ok ids, v)
  works : .updateMembers ∉ w.failing
  writable : w.readOnly = false
  new : ∃ members, w.store.members? g.uuid = some members ∧ ∃ id ∈ ids, id ∉ members
  unshown : ∃ id ∈ ids, ¬v.Shows id

section
variable {s t : Store} {u : Uuid} {ids : List AccountId}

theorem Store.members?_of_groups (same : t.groups = s.groups) : t.members? u = s.members? u := by
  rw [members?, members?, same]

theorem Store.members?_modified
    (groups : t.groups = s.groups.map (modified u fun m => m.insertAll ids)) :
    t.members? u = (s.members? u).map fun m => m.insertAll ids := by
  have uuid : ∀ g : Group, (modified u (fun m => m.insertAll ids) g).uuid = g.uuid := by
    intro g
    unfold modified
    split <;> rfl
  rw [members?, members?, groups, List.find?_map, Option.map_map, Option.map_map]
  simp only [Function.comp_def, uuid]
  cases found : s.groups.find? fun g => g.uuid = u with
  | none => rfl
  | some g =>
    have here : g.uuid = u := by simpa using List.find?_some found
    rw [Option.map_some, Option.map_some, modified, if_pos here]

/-- Adding ids makes a difference just where one of them is new. -/
theorem AccountSet.insertAll_eq_self_iff {m : AccountSet} :
    m.insertAll ids = m ↔ ∀ id ∈ ids, id ∈ m := by
  constructor
  · intro same id added
    rw [← same]
    exact mem_insertAll.2 (.inl added)
  · intro all
    refine ext fun a => ?_
    rw [mem_insertAll]
    exact or_iff_right_of_imp (all a)

theorem Store.new_of_members?_ne (groups : t.groups = s.groups.map
      (modified u fun m => m.insertAll ids)) (changed : t.members? u ≠ s.members? u) :
    ∃ members, s.members? u = some members ∧ ∃ id ∈ ids, id ∉ members := by
  rw [members?_modified groups] at changed
  cases before : s.members? u with
  | none => exact absurd (before ▸ rfl) changed
  | some members =>
    refine ⟨members, rfl, ?_⟩
    by_contra none
    rw [before, Option.map_some] at changed
    refine changed (congrArg some (AccountSet.insertAll_eq_self_iff.2 fun id added => ?_))
    by_contra new
    exact none ⟨id, added, new⟩

end

section
variable {settings : Settings} {caller : Caller} {r : OpenGroup} {tokens : List String}
  {w w' v : World} {g : Group} {ids : List AccountId} {token : String}

theorem requiredSummary_ok_iff {id : AccountId} :
    (∃ info, (requiredSummary true id).run w = (.ok info, w)) ↔ w.Shows id := by
  rw [requiredSummary, run_bind, run_findAccount]
  by_cases fails : .getAccount ∈ w.failing
  · rw [if_pos fails]
    exact iff_of_false (fun shown => by cases shown.choose_spec) fun shows => shows.1 fails
  rw [if_neg fails]
  cases found : w.store.accounts.find? fun a => a.id = id with
  | none =>
    refine iff_of_false (fun shown => by cases shown.choose_spec) fun shows => ?_
    obtain ⟨a, there, here⟩ := shows.2
    exact List.find?_eq_none.1 found a there (by simpa using here)
  | some a =>
    refine iff_of_true ⟨_, rfl⟩ ⟨fails, a, List.mem_of_find?_eq_some found, ?_⟩
    simpa using List.find?_some found

theorem summaries_ok_iff :
    (∃ infos, (summaries (requiredSummary true) ids).run w = (.ok infos, w)) ↔
      ∀ id ∈ ids, w.Shows id := by
  induction ids with
  | nil => exact iff_of_true ⟨[], rfl⟩ (by simp)
  | cons id ids ih =>
    rw [List.forall_mem_cons, ← ih, ← requiredSummary_ok_iff]
    constructor
    · rintro ⟨infos, shown⟩
      obtain ⟨info, x, first, shown⟩ := run_bind_eq_ok.1 shown
      obtain rfl := (ungrouped_requiredSummary true id).reads.world_eq first
      obtain ⟨rest, y, others, -⟩ := run_bind_eq_ok.1 shown
      obtain rfl := (ungrouped_summaries (ungrouped_requiredSummary true) ids).reads.world_eq others
      exact ⟨⟨info, first⟩, rest, others⟩
    · rintro ⟨⟨info, first⟩, rest, others⟩
      refine ⟨info :: rest, ?_⟩
      rw [summaries, run_bind_of_ok first, run_bind_of_ok others]
      rfl

theorem summaries_error_iff :
    (∃ e, (summaries (requiredSummary true) ids).run w = (.error e, w)) ↔
      ∃ id ∈ ids, ¬w.Shows id := by
  have reads := (ungrouped_summaries (ungrouped_requiredSummary true) ids).reads.run_eq w
  have shown : _ ↔ ∀ id ∈ ids, w.Shows id := summaries_ok_iff
  rw [reads] at shown ⊢
  cases result : ((summaries (requiredSummary true) ids).run w).1 with
  | ok infos =>
    rw [result] at shown
    refine iff_of_false (fun failed => by cases failed.choose_spec) ?_
    rintro ⟨id, added, hidden⟩
    exact hidden (shown.1 ⟨infos, rfl⟩ id added)
  | error e =>
    rw [result] at shown
    refine iff_of_true ⟨e, rfl⟩ ?_
    by_contra none
    refine absurd (shown.2 fun id added => ?_) (fun ok => by cases ok.choose_spec)
    by_contra hidden
    exact none ⟨id, added, hidden⟩

theorem run_addIds {u : Uuid} (tidy : w.store.Tidy) (works : .updateMembers ∉ w.failing)
    (writable : w.readOnly = false) {members : AccountSet}
    (there : w.store.members? u = some members) :
    ∃ w', (addIds u ids).run w = (.ok (), w') := by
  obtain ⟨o, found, -⟩ := Option.map_eq_some_iff.1 there
  match ids with
  | [] => exact ⟨w, rfl⟩
  | id :: ids =>
    obtain ⟨t, written, -⟩ :=
      Store.updateMembers_known tidy found fun m => m.insertAll (id :: ids)
    have ok : (Act.updateMembers u fun m => m.insertAll (id :: ids)).run w = (.ok _, _) :=
      run_write_eq_ok.2 ⟨works, t, written, by simp [writable], rfl⟩
    refine ⟨{ w with store := t }, ?_⟩
    rw [addIds, run_bind_of_ok (run_mapError_eq_ok.2 ok)]
    · rfl
    · simp

theorem works_of_addIds {u : Uuid} (h : (addIds u ids).run w = (.ok (), w'))
    (changed : w'.store.members? u ≠ w.store.members? u) :
    .updateMembers ∉ w.failing ∧ w.readOnly = false := by
  match ids with
  | [] =>
    cases h
    exact absurd rfl changed
  | id :: ids =>
    rw [addIds] at h
    · obtain ⟨o, x, written, rest⟩ := run_bind_eq_ok.1 h
      cases rest
      obtain ⟨works, t, -, same, rfl⟩ := run_write_eq_ok.1 (run_mapError_eq_ok.1 written)
      refine ⟨works, ?_⟩
      rw [← Bool.not_eq_true]
      exact fun readOnly => changed (congrArg (Store.members? · u) (same readOnly))
    · simp

theorem World.shows_congr {x : World} (accounts : x.store.accounts = v.store.accounts)
    (failing : x.failing = v.failing) (id : AccountId) : x.Shows id ↔ v.Shows id := by
  rw [Shows, Shows, accounts, failing]

/-- A batch that cannot be shown is written all the same. -/
theorem Unreported.not_truthful (hs : w.store.Reachable)
    (h : Unreported settings caller r tokens w g ids v) :
    ¬Truthful r w ((addMembers settings caller r tokens).run w) := by
  obtain ⟨group, access⟩ := r
  obtain rfl : group = .stored g := h.stored
  obtain ⟨c, rfl⟩ := h.user
  obtain ⟨members, before, id, added, new⟩ := h.new
  obtain ⟨created, way⟩ := provisions_of_resolveAll h.resolved
  have there : v.store.members? g.uuid = some members :=
    (Store.members?_of_groups way.store.groups).trans before
  obtain ⟨x, written⟩ := run_addIds (way.store.reachable hs).tidy (way.failing ▸ h.works)
    (way.readOnly.trans h.writable) there
  obtain ⟨groups, accounts, -, failing⟩ := addIds_eq_ok written
  obtain ⟨e, failed⟩ : ∃ e, (summaries (requiredSummary true) ids).run x = (.error e, x) := by
    obtain ⟨hidden, mem, unshown⟩ := h.unshown
    refine summaries_error_iff.2 ⟨hidden, mem, fun shows => unshown ?_⟩
    exact (World.shows_congr accounts failing hidden).1 shows
  have run : (addMembers settings (.user c) ⟨.stored g, access⟩ tokens).run w = (.error e, x) := by
    rw [addMembers_of_can h.can, run_bind_of_ok h.resolved, run_bind_of_ok written, failed]
  intro truthful
  rw [run] at truthful
  have same : x.store.members? g.uuid = w.store.members? g.uuid := truthful e g.uuid rfl rfl
  rw [Store.members?_modified groups, there, before, Option.map_some, Option.some_inj,
    AccountSet.insertAll_eq_self_iff] at same
  exact new (same id added)

theorem truthful_of_not_unreported
    (h : ∀ g ids v, ¬Unreported settings caller r tokens w g ids v) :
    Truthful r w ((addMembers settings caller r tokens).run w) := by
  intro e u failed opened
  cases run : (addMembers settings caller r tokens).run w with
  | mk result w' =>
    rw [run] at failed
    obtain rfl : result = .error e := failed
    obtain ⟨rfl, -⟩ | ⟨g, c, stored, rfl, can, ⟨e', resolved, -⟩ | ⟨ids, v, resolved, stages⟩⟩ :=
      addMembers_cases run
    · rfl
    · obtain ⟨created, way⟩ := provisions_of_resolveAll resolved
      exact Store.members?_of_groups way.store.groups
    obtain ⟨created, way⟩ := provisions_of_resolveAll resolved
    obtain ⟨e', written, -⟩ | ⟨x, written, shown⟩ := stages
    · obtain ⟨rfl, -⟩ | ⟨_, _, _, _, ok⟩ := addIds_cases written
      · exact Store.members?_of_groups way.store.groups
      · cases ok
    obtain rfl := (ungrouped_summaries (ungrouped_requiredSummary true) ids).reads.world_eq shown
    obtain rfl : g.uuid = u := by
      rw [OpenGroup.uuid?, stored] at opened
      exact Option.some.inj opened
    obtain ⟨groups, accounts, -, failing⟩ := addIds_eq_ok written
    by_contra changed
    have same : v.store.members? g.uuid = w.store.members? g.uuid :=
      Store.members?_of_groups way.store.groups
    obtain ⟨works, writable⟩ := works_of_addIds written (fun kept => changed (kept.trans same))
    refine h g ids v ⟨stored, can, ⟨c, rfl⟩, resolved, way.failing ▸ works,
      way.readOnly ▸ writable, ?_, ?_⟩
    · exact Store.new_of_members?_ne (way.store.groups ▸ groups) changed
    · obtain ⟨id, added, hidden⟩ := summaries_error_iff.1 ⟨e, shown⟩
      exact ⟨id, added, fun shows => hidden ((World.shows_congr accounts failing id).2 shows)⟩

/-- Putting a member fails as adding it fails, once it is known not to be a member. -/
theorem putMember_of_absent (absent : (findMember settings caller r token).run w = (.ok none, w)) :
    ∃ q : Except ApiError PutOutcome,
      (putMember settings caller r token).run w =
        (q, ((addMembers settings caller r [token]).run w).2) ∧
      ((∃ e, q = .error e) ↔
        ∃ e, ((addMembers settings caller r [token]).run w).1 = .error e) := by
  rw [putMember, run_bind_of_ok absent]
  dsimp only
  rw [run_bind, run_outcome]
  cases run : (addMembers settings caller r [token]).run w with
  | mk result w' =>
    cases result with
    | error e =>
      dsimp only
      split
      · exact ⟨_, rfl, iff_of_true ⟨_, rfl⟩ ⟨_, rfl⟩⟩
      · exact ⟨_, rfl, iff_of_true ⟨_, rfl⟩ ⟨_, rfl⟩⟩
    | ok infos =>
      obtain ⟨info, shown⟩ : ∃ info, infos = [info] := by
        obtain ⟨group, access⟩ := r
        cases group with
        | external id name => cases run
        | stored g =>
          obtain ⟨-, as, added⟩ := addMembers_eq_ok.1 run
          obtain ⟨-, info, -, -, shown, -⟩ := added.single
          exact ⟨info, shown⟩
      rw [shown]
      exact ⟨_, rfl, iff_of_false (fun failed => by cases failed.choose_spec)
        (fun failed => by cases failed.choose_spec)⟩

theorem truthful_putMember_iff :
    Truthful r w ((putMember settings caller r token).run w) ↔
      ((findMember settings caller r token).run w = (.ok none, w) →
        Truthful r w ((addMembers settings caller r [token]).run w)) := by
  by_cases absent : (findMember settings caller r token).run w = (.ok none, w)
  · obtain ⟨q, run, failed⟩ := putMember_of_absent absent
    rw [run]
    constructor
    · intro truthful _ e u ended
      obtain ⟨e', rfl⟩ := failed.2 ⟨e, ended⟩
      exact truthful e' u rfl
    · intro truthful e u ended
      obtain ⟨e', ended'⟩ := failed.1 ⟨e, ended⟩
      exact truthful absent e' u ended'
  · refine iff_of_true (fun e u _ _ => ?_) fun none => absurd none absent
    have kept : ((putMember settings caller r token).run w).2 = w := by
      rw [putMember, run_bind, (reads_findMember settings caller r token).run_eq w]
      cases found : ((findMember settings caller r token).run w).1 with
      | error e => rfl
      | ok o =>
        cases o with
        | some info => rfl
        | none => exact absurd (((reads_findMember settings caller r token).run_eq w).trans
            (found ▸ rfl)) absent
    rw [kept]

/-- Adding and putting members report no error for a write that took place, exactly where the
accounts that were added to the group can be shown. -/
theorem errors_truthful_iff (hs : w.store.Reachable) :
    (Truthful r w ((addMembers settings caller r tokens).run w) ↔
        ∀ g ids v, ¬Unreported settings caller r tokens w g ids v) ∧
      (Truthful r w ((putMember settings caller r token).run w) ↔
        ((findMember settings caller r token).run w = (.ok none, w) →
          ∀ g ids v, ¬Unreported settings caller r [token] w g ids v)) := by
  have adding : ∀ tokens, Truthful r w ((addMembers settings caller r tokens).run w) ↔
      ∀ g ids v, ¬Unreported settings caller r tokens w g ids v := fun tokens =>
    ⟨fun truthful _ _ _ unreported => unreported.not_truthful hs truthful,
      truthful_of_not_unreported⟩
  refine ⟨adding tokens, ?_⟩
  rw [truthful_putMember_iff, adding]

/-- For a caller who has an account it takes a store that fails to read accounts. -/
theorem Unreported.fails (h : Unreported settings caller r tokens w g ids v)
    (hc : ∀ c, caller = .user c → c ∈ w.store.accounts) : .getAccount ∈ w.failing := by
  obtain ⟨created, way⟩ := provisions_of_resolveAll h.resolved
  obtain ⟨as, resolves, -, rfl⟩ := resolveAll_eq_ok h.resolved
  obtain ⟨id, added, hidden⟩ := h.unshown
  by_contra reads
  refine hidden ⟨way.failing ▸ reads, ?_⟩
  rw [foldl_keepFirst, List.nil_append, List.mem_eraseDups, List.mem_filter, List.mem_map] at added
  obtain ⟨⟨a, resolved, here⟩, -⟩ := added
  exact ⟨a, (resolves.mem hc).2 a resolved, here⟩

end

def ownerOfTeam : Account :=
  ⟨⟨1000⟩, some "owner", none, none, true, 0⟩

/-- The team with a second account that is not a member, while accounts cannot be read by id. -/
def unreadable : World where
  store := .memory ⟨[ownerOfTeam, ⟨⟨1001⟩, some "guest", none, none, true, 0⟩], 1002,
    [soloTeam], 2, []⟩
  failing := [.getAccount]
  directory := .listed []
  now := 0
  readOnly := false

theorem reachable_unreadable : unreadable.store.Reachable :=
  .write (.write (.write .memory (.createAccount
      (show _ from rfl : Store.createAccount _ ⟨some "owner", none, none, true, 0⟩ = .ok (_, _))))
    (.createAccount
      (show _ from rfl : Store.createAccount _ ⟨some "guest", none, none, true, 0⟩ = .ok (_, _))))
    (.createGroup (show _ from rfl : Store.createGroup _ ⟨List.replicate 16 7, rfl⟩
      ⟨"team", none, none, .ofList [⟨1000⟩], false, 0⟩ = .ok (_, _)))

def openedTeam : OpenGroup :=
  ⟨.stored soloTeam, ⟨true, true, false, true⟩⟩

/-- The guest has joined, and the owner is told of an error. -/
theorem guest_joined_unreported :
    unreadable.store.Reachable ∧
      ((addMembers .default (.user ownerOfTeam) openedTeam ["guest"]).run unreadable).1 =
        .error (.ofStore .lockPoisoned) ∧
      ((addMembers .default (.user ownerOfTeam) openedTeam ["guest"]).run
        unreadable).2.store.members? soloTeam.uuid = some (.ofList [⟨1000⟩, ⟨1001⟩]) ∧
      ¬Truthful openedTeam unreadable
        ((addMembers .default (.user ownerOfTeam) openedTeam ["guest"]).run unreadable) ∧
      ¬Truthful openedTeam unreadable
        ((putMember .default (.user ownerOfTeam) openedTeam "guest").run unreadable) := by
  refine ⟨reachable_unreadable, rfl, by decide, fun truthful => ?_, fun truthful => ?_⟩
  · exact absurd (truthful _ soloTeam.uuid rfl rfl) (by decide)
  · exact absurd (truthful _ soloTeam.uuid rfl rfl) (by decide)

/-- Where accounts can be read, errors are truthful. -/
theorem solo_team_truthful :
    soloWorld.store.Reachable ∧
      Truthful openedTeam soloWorld
        ((addMembers .default (.user ownerOfTeam) openedTeam ["guest", "nobody"]).run soloWorld) ∧
      Truthful openedTeam soloWorld
        ((putMember .default (.user ownerOfTeam) openedTeam "guest").run soloWorld) := by
  have reported : ∀ tokens g ids v,
      ¬Unreported .default (.user ownerOfTeam) openedTeam tokens soloWorld g ids v := by
    intro tokens g ids v unreported
    have fails := unreported.fails fun c known => by
      cases known
      exact List.mem_singleton_self ownerOfTeam
    cases fails
  have truthful := @errors_truthful_iff .default (.user ownerOfTeam) openedTeam
    ["guest", "nobody"] soloWorld "guest" reachable_soloWorld
  exact ⟨reachable_soloWorld, truthful.1.2 (reported _), truthful.2.2 fun _ => reported _⟩

end CodeReview
