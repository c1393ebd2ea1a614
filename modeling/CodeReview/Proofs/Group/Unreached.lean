import CodeReview.Proofs.Account.Admission
import CodeReview.Proofs.Orderly
set_option autoImplicit false

/-!
A directory that is out of reach. Adding members breaks where a token is to be looked up in the
directory and the directory cannot be reached, and in an intact world it breaks nowhere else: an
account that was just made can be read, a group that is gone is not found, and what the store
holds against an entry is held against the token.
-/
namespace CodeReview
open Act

/-- The directory is asked about a token and cannot be reached. -/
structure Unreached (settings : Settings) (caller : Caller) (token : String) (w : World) :
    Prop where
  unsettled : Unsettled settings caller token w
  reply : ∃ reason, (w.consult (Text.trim token)).1 = .error (.transport reason)

/-- The directory is out of reach for a token after those before it were resolved to active
accounts. -/
inductive Stops (settings : Settings) (caller : Caller) : World → List String → Prop where
  | here {w : World} {token : String} {tokens : List String}
    (h : Unreached settings caller token w) : Stops settings caller w (token :: tokens)
  | later {w v : World} {token : String} {tokens : List String} {a : Account}
    (first : (resolveAccount settings caller token).run w = (.ok a, v)) (active : a.active = true)
    (rest : Stops settings caller v tokens) : Stops settings caller w (token :: tokens)

section
variable {name : String} {w v : World} {e : DirectoryEntry} {d : ProvisionError}

theorem mapError_eq_error {ε δ α : Type} {f : ε → δ} {x : Act ε α} {c : δ}
    (h : (x.mapError f).run w = (.error c, v)) : ∃ b, c = f b := by
  rw [run_mapError] at h
  cases result : (x.run w).1 with
  | ok a =>
    rw [result] at h
    cases h
  | error b =>
    rw [result] at h
    cases h
    exact ⟨b, rfl⟩

/-- An account of an entry is made without the directory, so the directory does not fail. -/
theorem createFromEntry_error (h : (createFromEntry e).run w = (.error d, v)) (f : DirectoryError) :
    d ≠ .directory f := by
  rcases run_bind_eq_error.1 h with checked | ⟨_, u, -, h⟩
  · cases mail : e.email with
    | none =>
      rw [mail] at checked
      cases checked
    | some email =>
      rw [mail, checkEmailFree] at checked
      rcases run_bind_eq_error.1 checked with read | ⟨found, u, -, refused⟩
      · obtain ⟨b, rfl⟩ := mapError_eq_error read
        simp [ProvisionError.ofStore]
      · cases found with
        | nil => cases refused
        | cons a as =>
          cases refused
          simp
  · rw [run_bind_of_ok (run_now u)] at h
    rcases run_bind_eq_error.1 h with made | ⟨a, x, -, shown⟩
    · obtain ⟨b, rfl⟩ := mapError_eq_error made
      cases b <;> simp [ProvisionError.ofCreation, ProvisionError.ofStore]
    · cases shown

theorem accountOfEntry_error (h : (accountOfEntry name .trusted e).run w = (.error d, v))
    (f : DirectoryError) : d ≠ .directory f := by
  rw [accountOfEntry, checkCredentials, run_bind_of_ok (run_pure () w)] at h
  rcases run_bind_eq_error.1 h with read | ⟨found, u, -, h⟩
  · obtain ⟨b, rfl⟩ := mapError_eq_error read
    simp [ProvisionError.ofStore]
  · cases found with
    | some a => cases h
    | none => exact createFromEntry_error h f

/-- The account of an entry is there, whether it was made or found. -/
theorem getAccount_of_accountOfEntry (h : w.Intact) {p : Provisioned}
    (made : (accountOfEntry name .trusted e).run w = (.ok p, v)) :
    ∃ a, (Act.getAccount p.account).run v = (.ok a, v) := by
  rcases accountOfEntry_cases made with ⟨rfl, found⟩ | ⟨-, created⟩
  · obtain ⟨a, -, named, rfl⟩ := found p rfl
    have there := (Store.mem_of_findByUsername named).1
    exact ⟨a, run_read_eq_ok.2 ⟨h.works ▸ List.not_mem_nil,
      h.reachable.numbered.getAccount_of_mem there, rfl⟩⟩
  · rcases createFromEntry_cases created with ⟨-, none⟩ | ⟨a, s, -, written, -, rfl, same⟩
    · exact absurd rfl (none p)
    obtain rfl := Except.ok.inj same
    have next : s.Numbered := (h.reachable.write (.createAccount written)).numbered
    have there : a ∈ s.accounts := by simp [(Store.createAccount_eq_ok written).2.1]
    exact ⟨a, run_read_eq_ok.2 ⟨h.works ▸ List.not_mem_nil, next.getAccount_of_mem there, rfl⟩⟩

end

section
variable {settings : Settings} {caller : Caller} {o : OpenGroup} {token : String}
  {tokens : List String} {w : World}

theorem World.Intact.consult (h : w.Intact) (name : String) : (w.consult name).2.Intact := by
  obtain ⟨store, failing, -, readOnly⟩ := w.consult_store name
  exact ⟨store ▸ h.reachable, failing.trans h.works, readOnly.trans h.writable⟩

theorem breaks_of_unreached (h : Unreached settings caller token w) :
    Breaks (resolveAccount settings caller token) w := by
  obtain ⟨reason, said⟩ := h.reply
  refine ⟨.directoryUnreachable reason, ?_, rfl⟩
  rw [run_resolveAccount_of_unsettled h.unsettled, run_resolveInDirectory h.unsettled.username,
    said]

/-- A directory that answers, if only with an entry or with nonsense, breaks nothing. -/
theorem not_breaks_of_reached (h : w.Intact) (unsettled : Unsettled settings caller token w)
    (reached : ∀ reason, (w.consult (Text.trim token)).1 ≠ .error (.transport reason)) :
    ¬Breaks (resolveAccount settings caller token) w := by
  have run := run_resolveAccount_of_unsettled unsettled
  rw [run_resolveInDirectory unsettled.username] at run
  have missing (v : World)
      (failed : (resolveAccount settings caller token).run w =
        (.error (.accountMissing (Text.trim token)), v)) :
      ¬Breaks (resolveAccount settings caller token) w :=
    not_breaks_of_error (congrArg Prod.fst failed) (by simp [ApiError.accountMissing])
  match said : (w.consult (Text.trim token)).1 with
  | .error (.transport reason) => exact absurd said (reached reason)
  | .error (.protocol reason) =>
    rw [said] at run
    exact missing _ run
  | .ok none =>
    rw [said] at run
    exact missing _ run
  | .ok (some e) =>
    rw [said] at run
    dsimp only at run
    cases made : (accountOfEntry (Text.trim token) .trusted e).run (w.consult (Text.trim token)).2
      with
    | mk result v =>
      rw [made] at run
      cases result with
      | ok p =>
        obtain ⟨a, known⟩ := getAccount_of_accountOfEntry (h.consult _) made
        have resolved := run.trans (run_mapError_eq_ok.2 known)
        exact not_breaks_of_ok (congrArg Prod.fst resolved)
      | error d =>
        have other := accountOfEntry_error made
        cases d with
        | directory f => exact absurd rfl (other f)
        | _ => exact missing _ run

/-- Resolving a token breaks just where the directory is out of reach. -/
theorem breaks_resolveAccount_iff (h : w.Intact) :
    Breaks (resolveAccount settings caller token) w ↔ Unreached settings caller token w := by
  refine ⟨fun broken => ?_, breaks_of_unreached⟩
  have unsettled : Unsettled settings caller token w := by
    by_contra settled
    obtain ⟨e, failed, internal⟩ := broken
    rw [run_resolveAccount_of_settled settled, localResult] at failed
    dsimp only at failed
    exact (orderly_parseAccount settings caller (Text.trim token)).never w h ⟨e, failed, internal⟩
  refine ⟨unsettled, ?_⟩
  by_contra reached
  exact not_breaks_of_reached h unsettled (not_exists.1 reached) broken

theorem breaks_resolveActive_iff :
    Breaks (resolveActive settings caller token) w ↔
      Breaks (resolveAccount settings caller token) w := by
  unfold Breaks
  rw [run_resolveActive]
  cases (resolveAccount settings caller token).run w with
  | mk result v =>
    cases result with
    | error e => simp
    | ok a =>
      dsimp only
      split <;> simp [ApiError.accountInactive]

theorem intact_of_resolveActive (h : w.Intact) {result : Except ApiError AccountId} {v : World}
    (run : (resolveActive settings caller token).run w = (result, v)) : v.Intact := by
  obtain ⟨created, way⟩ := provisions_of_resolveActive run
  exact (World.Continues.of_provisions way).intact h

theorem breaks_resolveAll_iff (h : w.Intact) {found : List AccountId} :
    Breaks (resolveAll settings caller found tokens) w ↔ Stops settings caller w tokens := by
  -- The world changes on the way: each token may be given an account before the next is tried.
  induction tokens generalizing found w with
  | nil =>
    refine iff_of_false (not_breaks_of_ok rfl) ?_
    rintro ⟨⟩
  | cons token tokens ih =>
    rw [resolveAll, breaks_bind_iff, breaks_resolveActive_iff, breaks_resolveAccount_iff h]
    constructor
    · rintro (unreached | ⟨id, v, first, broken⟩)
      · exact .here unreached
      · obtain ⟨a, resolved, active, -⟩ := resolveActive_eq_ok first
        exact .later resolved active ((ih (intact_of_resolveActive h first)).1 broken)
    · intro stops
      cases stops with
      | here unreached => exact .inl unreached
      | @later _ v _ _ a first active rest =>
        have run : (resolveActive settings caller token).run w = (.ok a.id, v) := by
          rw [run_resolveActive, first]
          dsimp only
          rw [if_pos active]
        exact .inr ⟨a.id, v, run, (ih (intact_of_resolveActive h run)).2 rest⟩

/-- A group that is there is written, and one that is gone is not found. -/
theorem not_breaks_addIds (h : w.Intact) (u : Uuid) (ids : List AccountId) :
    ¬Breaks (addIds u ids) w := by
  have updated (modify : AccountSet → AccountSet) :
      ¬Breaks ((Act.updateMembers u modify).mapError ApiError.ofStore) w := by
    cases found : w.store.groups.find? fun g => g.uuid = u with
    | some g =>
      obtain ⟨t, written, -⟩ := Store.updateMembers_known h.reachable.tidy found modify
      have run : (Act.updateMembers u modify).run w = (.ok _, { w with store := t }) :=
        run_write_eq_ok.2 ⟨h.works ▸ List.not_mem_nil, t, written,
          fun refused => absurd refused (by rw [h.writable]; decide), rfl⟩
      exact not_breaks_of_ok (congrArg Prod.fst (run_mapError_eq_ok.2 run))
    | none =>
      have run : (Act.updateMembers u modify).run w = (.error (.groupNotFound u.text), w) := by
        rw [Act.updateMembers, run_write, h.works, if_neg List.not_mem_nil,
          Store.updateMembers_unknown found]
      refine not_breaks_of_error (e := .ofStore (.groupNotFound u.text)) ?_ ?_
      · rw [run_mapError, run]
        rfl
      · simp [ApiError.ofStore]
  intro broken
  cases ids with
  | nil => exact not_breaks_of_ok rfl broken
  | cons id ids =>
    rw [addIds, breaks_bind_iff] at broken
    · rcases broken with broken | ⟨g, v, -, broken⟩
      · exact updated _ broken
      · exact not_breaks_of_ok rfl broken
    · simp

/-- A user who may add members is stopped by the directory and by nothing else. -/
theorem breaks_addMembers_of_can (h : w.Intact) {g : Group} {access : GroupAccess}
    (can : access.canAddMember = true) (c : Account) :
    Breaks (addMembers settings (.user c) ⟨.stored g, access⟩ tokens) w ↔
      Stops settings (.user c) w tokens := by
  have same : Breaks (addMembers settings (.user c) ⟨.stored g, access⟩ tokens) w ↔
      Breaks (resolveAll settings (.user c) [] tokens >>= fun ids =>
        addIds g.uuid ids >>= fun _ => summaries (requiredSummary true) ids) w := by
    unfold Breaks
    rw [addMembers_of_can can]
  rw [same, breaks_bind_iff, breaks_resolveAll_iff h]
  refine or_iff_left ?_
  rintro ⟨ids, v, resolved, broken⟩
  obtain ⟨created, way⟩ := provisions_of_resolveAll resolved
  have later : v.Intact := (World.Continues.of_provisions way).intact h
  rcases breaks_bind_iff.1 broken with broken | ⟨_, u, written, broken⟩
  · exact not_breaks_addIds later g.uuid ids broken
  · exact (orderly_summaries (orderly_requiredSummary true) ids).never u
      ((continues_of_addIds written).intact later) broken

/-- Adding members breaks just where a user who may add them is stopped by the directory. -/
theorem breaks_addMembers_iff (h : w.Intact) :
    Breaks (addMembers settings caller o tokens) w ↔
      (∃ g, o.group = .stored g) ∧ (∃ c, caller = .user c) ∧ o.access.canAddMember = true ∧
        Stops settings caller w tokens := by
  obtain ⟨group, access⟩ := o
  constructor
  · intro broken
    cases group with
    | external id name =>
      exact absurd broken (not_breaks_of_error (e := .externalGroup) rfl (by decide))
    | stored g =>
      cases caller with
      | anonymous =>
        exact absurd broken (not_breaks_of_error (e := .authenticationRequired) rfl (by decide))
      | user c =>
        cases can : access.canAddMember with
        | false =>
          refine absurd broken (not_breaks_of_error (e := .mayNotAdd g.name) ?_ ?_)
          · rw [addMembers]
            simp only [can]
            rfl
          · simp [ApiError.mayNotAdd]
        | true => exact ⟨⟨g, rfl⟩, ⟨c, rfl⟩, rfl, (breaks_addMembers_of_can h can c).1 broken⟩
  · rintro ⟨⟨g, rfl⟩, ⟨c, rfl⟩, can, stops⟩
    exact (breaks_addMembers_of_can h can c).2 stops

/-- A token that the directory is asked about is no member's. -/
theorem run_findMember_of_unsettled {g : Group} (stored : o.stored = .ok g)
    (unsettled : Unsettled settings caller token w) :
    (findMember settings caller o token).run w = (.ok none, w) := by
  have nothing : (parseAccount settings caller token).run w =
      (.error (.accountMissing token), w) := by
    rw [parseAccount, ← lookupAccounts_trim, run_bind_of_ok unsettled.nothing]
    rfl
  rw [findMember, stored, run_bind_of_ok (run_ofExcept _ _), run_bind, run_outcome, nothing]
  rfl

/-- Putting what is no member yet breaks as adding it breaks. -/
theorem breaks_putMember_of_absent
    (absent : (findMember settings caller o token).run w = (.ok none, w)) :
    Breaks (putMember settings caller o token) w ↔
      Breaks (addMembers settings caller o [token]) w := by
  unfold Breaks
  rw [putMember, run_bind_of_ok absent]
  dsimp only
  rw [run_bind, run_outcome]
  cases (addMembers settings caller o [token]).run w with
  | mk result v =>
    cases result with
    | ok infos =>
      dsimp only
      split <;> simp [ApiError.memberUnknown]
    | error e =>
      dsimp only
      split
      · next regular => simp [ApiError.memberUnknown, regular]
      · simp

/-- Putting a member breaks just where a user who may add it is stopped by the directory. -/
theorem breaks_putMember_iff (h : w.Intact) :
    Breaks (putMember settings caller o token) w ↔
      (∃ g, o.group = .stored g) ∧ (∃ c, caller = .user c) ∧ o.access.canAddMember = true ∧
        Stops settings caller w [token] := by
  rw [← breaks_addMembers_iff h]
  constructor
  · intro broken
    have looked := broken
    rw [putMember, (orderly_findMember settings caller o token).breaks_bind h] at looked
    obtain ⟨found, absent, ended⟩ := looked
    cases found with
    | some s => exact absurd ended (not_breaks_of_ok rfl)
    | none => exact (breaks_putMember_of_absent absent).1 broken
  · intro broken
    obtain ⟨⟨g, stored⟩, -, -, stops⟩ := (breaks_addMembers_iff h).1 broken
    have named : o.stored = .ok g := by rw [OpenGroup.stored, stored]
    cases stops with
    | here unreached =>
      exact (breaks_putMember_of_absent
        (run_findMember_of_unsettled named unreached.unsettled)).2 broken
    | later _ _ rest => cases rest

theorem stored_of_openGroup {id : String} {x : World}
    (h : (openGroup settings caller id).run w = (.ok o, x))
    (can : o.access.canAddMember = true) : ∃ g, o.group = .stored g := by
  obtain ⟨-, -, access⟩ := openGroup_eq_ok h
  obtain ⟨group, _⟩ := o
  cases group with
  | stored g => exact ⟨g, rfl⟩
  | external id name =>
    cases access
    cases can

/-- Adding to a group that was opened is left to the access and to the tokens. -/
theorem breaks_addMembers_opened (h : w.Intact) {id : String} {x : World}
    (opened : (openGroup settings caller id).run w = (.ok o, x)) :
    Breaks (addMembers settings caller o tokens) w ↔
      o.access.canAddMember = true ∧ Stops settings caller w tokens := by
  rw [breaks_addMembers_iff h]
  exact ⟨fun all => all.2.2, fun both =>
    ⟨stored_of_openGroup opened both.1, user_of_openGroup opened both.1, both⟩⟩

theorem breaks_putMember_opened (h : w.Intact) {id : String} {x : World}
    (opened : (openGroup settings caller id).run w = (.ok o, x)) :
    Breaks (putMember settings caller o token) w ↔
      o.access.canAddMember = true ∧ Stops settings caller w [token] := by
  rw [breaks_putMember_iff h]
  exact ⟨fun all => all.2.2, fun both =>
    ⟨stored_of_openGroup opened both.1, user_of_openGroup opened both.1, both⟩⟩

end

end CodeReview
