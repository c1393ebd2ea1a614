import CodeReview.Group.Membership
import CodeReview.Proofs.Action
import CodeReview.Proofs.Store.View
set_option autoImplicit false

/-!
Requests without dates. The only thing that the clock decides is when an account is registered,
and nothing that is done with an account asks for that. So an action ends in a world without
dates as it ends in the world itself, but for the dates of the accounts that it answers with.
-/
namespace CodeReview
open Act

def Account.undated (a : Account) : Account :=
  { a with registeredOn := 0 }

def NewAccount.undated (n : NewAccount) : NewAccount :=
  { n with registeredOn := 0 }

def Caller.undated : Caller → Caller
  | .anonymous => .anonymous
  | .user a => .user a.undated

def Matches.undated (m : Matches) : Matches :=
  { m with visible := m.visible.map Account.undated }

def TableStore.undated (t : TableStore) : TableStore :=
  { t with accounts := t.accounts.map Account.undated }

namespace Store

def undated : Store → Store
  | .memory m => .memory { m with accounts := m.accounts.map Account.undated }
  | .tables t => .tables t.undated

@[simp] theorem accounts_undated (s : Store) :
    s.undated.accounts = s.accounts.map Account.undated := by
  cases s <;> rfl

@[simp] theorem groups_undated (s : Store) : s.undated.groups = s.groups := by
  cases s <;> rfl

theorem find?_undated (accounts : List Account) (p : Account → Bool)
    (same : ∀ a : Account, p a.undated = p a) :
    (accounts.map Account.undated).find? p = (accounts.find? p).map Account.undated := by
  rw [List.find?_map]
  congr 2
  funext a
  exact same a

theorem filter_undated (accounts : List Account) (p : Account → Bool)
    (same : ∀ a : Account, p a.undated = p a) :
    (accounts.map Account.undated).filter p = (accounts.filter p).map Account.undated := by
  rw [List.filter_map]
  congr 2
  funext a
  exact same a

theorem getAccount_undated (s : Store) (id : AccountId) :
    s.undated.getAccount id = (s.getAccount id).map Account.undated := by
  rw [getAccount_eq, getAccount_eq, accounts_undated, find?_undated _ _ fun _ => rfl]
  cases s.accounts.find? fun a => a.id = id <;> rfl

theorem findByUsername_undated (s : Store) (name : String) :
    s.undated.findByUsername name = (s.findByUsername name).map Account.undated := by
  rw [findByUsername_eq, findByUsername_eq, accounts_undated, find?_undated _ _ fun _ => rfl]

theorem findByEmail_undated (s : Store) (email : String) :
    s.undated.findByEmail email = (s.findByEmail email).map Account.undated := by
  cases s with
  | memory m => exact filter_undated m.accounts _ fun _ => rfl
  | tables t => exact filter_undated t.accounts _ fun _ => rfl

theorem findByFullName_undated (s : Store) (name : String) :
    s.undated.findByFullName name = (s.findByFullName name).map Account.undated := by
  cases s with
  | memory m => exact filter_undated m.accounts _ fun _ => rfl
  | tables t => exact filter_undated t.accounts _ fun _ => rfl

theorem getGroup_undated (s : Store) (uuid : Uuid) :
    s.undated.getGroup uuid = s.getGroup uuid := by
  rw [getGroup_eq, getGroup_eq, groups_undated]

theorem findGroupByName_undated (s : Store) (name : String) :
    s.undated.findGroupByName name = s.findGroupByName name := by
  rw [findGroupByName_eq, findGroupByName_eq, groups_undated]

theorem findGroupById_undated (s : Store) (id : GroupNumber) :
    s.undated.findGroupById id = s.findGroupById id := by
  rw [findGroupById_eq, findGroupById_eq, groups_undated]

theorem groupsContaining_undated (s : Store) (id : AccountId) :
    s.undated.groupsContaining id = s.groupsContaining id := by
  cases s <;> rfl

/-- What a writing call comes to, told without dates. -/
def undating {α : Type} (e : α → α) (r : Except StoreError (α × Store)) :
    Except StoreError (α × Store) :=
  r.map fun p => (e p.1, p.2.undated)

theorem createAccount_undated (s : Store) (n : NewAccount) :
    s.undated.createAccount n.undated = undating Account.undated (s.createAccount n) := by
  cases s with
  | memory m =>
    have taken : MemoryStore.usernameTaken
        { m with accounts := m.accounts.map Account.undated } = m.usernameTaken := by
      funext name
      exact List.any_map
    unfold createAccount undated MemoryStore.createAccount
    dsimp only
    rw [taken, NewAccount.undated]
    cases n.username.filter m.usernameTaken with
    | some name => rfl
    | none =>
      dsimp only
      split
      · rfl
      · simp [undating, ofMemory, Except.map, undated, Account.undated, NewAccount.withId]
  | tables t =>
    have taken : t.undated.usernameTaken = t.usernameTaken := by
      funext name
      exact List.any_map
    have numbers : t.undated.accounts.map (fun a => a.id.number) =
        t.accounts.map fun a => a.id.number := List.map_map
    unfold createAccount undated TableStore.createAccount
    dsimp only
    rw [taken, numbers, NewAccount.undated]
    cases n.username.filter t.usernameTaken with
    | some name => rfl
    | none =>
      dsimp only
      cases column32 (nextNumber firstAccount.toNat (t.accounts.map fun a => a.id.number)) with
      | error e => rfl
      | ok id =>
        simp [undating, ofTables, Except.map, undated, TableStore.undated, Account.undated,
          NewAccount.withId]

theorem updateMembers_undated (s : Store) (uuid : Uuid) (modify : AccountSet → AccountSet) :
    s.undated.updateMembers uuid modify = undating id (s.updateMembers uuid modify) := by
  cases s with
  | memory m =>
    have same : MemoryStore.group? { m with accounts := m.accounts.map Account.undated } uuid =
        m.group? uuid := rfl
    unfold updateMembers undated MemoryStore.updateMembers
    dsimp only
    rw [same]
    cases m.group? uuid <;> rfl
  | tables t =>
    have there : t.undated.groupExists uuid = t.groupExists uuid := rfl
    have members : t.undated.membersOf uuid = t.membersOf uuid := rfl
    unfold updateMembers undated TableStore.updateMembers
    dsimp only
    rw [there, members]
    cases t.groupExists uuid with
    | false => rfl
    | true =>
      have found (rows : List MemberRow) : TableStore.group?
          { t with accounts := t.accounts.map Account.undated, members := rows } uuid =
          TableStore.group? { t with members := rows } uuid := rfl
      simp only [Bool.not_true, if_neg Bool.false_ne_true, TableStore.undated, found]
      split <;> rfl

end Store

/-- The world at no time, with accounts that no time is kept for. -/
def World.undated (w : World) : World :=
  { w with store := w.store.undated, now := 0 }

/-- In the world without dates the second action ends as the first one ends in the world, but for
the dates in what it answers with, and leaves what the first one leaves but for the dates. -/
def Act.Undates {ε α : Type} (e : α → α) (x y : Act ε α) : Prop :=
  ∀ w, y.run w.undated = ((x.run w).1.map e, (x.run w).2.undated)

namespace Act
variable {ε δ α β : Type} {e : α → α}

theorem map_mapError (f : ε → δ) (r : Except ε α) :
    (r.map e).mapError f = (r.mapError f).map e := by
  cases r <;> rfl

namespace Undates

theorem pure (a : α) : Undates e (Pure.pure a : Act ε α) (Pure.pure (e a)) := fun _ => rfl

theorem fail (d : ε) : Undates e (Act.fail d : Act ε α) (Act.fail d) := fun _ => rfl

theorem ofExcept {r q : Except ε α} (same : q = r.map e) :
    Undates e (Act.ofExcept r) (Act.ofExcept q) := by
  intro w
  rw [run_ofExcept, run_ofExcept, same]

theorem outcome {x y : Act ε α} (h : Undates e x y) :
    Undates (Except.map e) (x.outcome : Act δ (Except ε α)) y.outcome := by
  intro w
  rw [run_outcome, run_outcome, h w]
  rfl

theorem mapError {x y : Act ε α} (h : Undates e x y) (f : ε → δ) :
    Undates e (x.mapError f) (y.mapError f) := by
  intro w
  rw [run_mapError, run_mapError, h w, map_mapError]

theorem bind {d : β → β} {x y : Act ε α} {f g : α → Act ε β} (hx : Undates e x y)
    (hf : ∀ a, Undates d (f a) (g (e a))) : Undates d (x >>= f) (y >>= g) := by
  intro w
  rw [run_bind, run_bind, hx w]
  cases x.run w with
  | mk r v =>
    cases r with
    | ok a => exact hf a v
    | error e => rfl

theorem read {call : StoreCall} {f g : Store → Except StoreError α}
    (same : ∀ s, g s.undated = (f s).map e) : Undates e (Act.read call f) (Act.read call g) := by
  intro w
  rw [run_read, run_read]
  show (if call ∈ w.failing then _ else g w.store.undated, _) = _
  rw [same]
  split <;> rfl

/-- A writing call that comes to the same without dates, also where the store may not be
changed. -/
theorem write {call : StoreCall} {f g : Store → Except StoreError (α × Store)}
    (same : ∀ s, g s.undated = Store.undating e (f s))
    (still : ∀ s a t, f s = .ok (a, t) → t.undated = s.undated → t = s) :
    Undates e (Act.write call f) (Act.write call g) := by
  intro w
  have store : w.undated.store = w.store.undated := rfl
  rw [run_write, run_write]
  show (if call ∈ w.failing then _ else _) = _
  split
  · rfl
  · rw [store, same]
    cases written : f w.store with
    | error e => rfl
    | ok p =>
      obtain ⟨a, t⟩ := p
      -- A store that is only read refuses what differs, and a difference may be in dates alone.
      have changed : t.undated = w.store.undated ↔ t = w.store :=
        ⟨still w.store a t written, fun e => e ▸ rfl⟩
      show (if w.readOnly = true ∧ t.undated ≠ w.store.undated then _ else _) = _
      dsimp only
      by_cases refused : w.readOnly = true ∧ t ≠ w.store
      · rw [if_pos refused, if_pos ⟨refused.1, fun e => refused.2 (changed.1 e)⟩]
        rfl
      · rw [if_neg refused, if_neg fun h => refused ⟨h.1, fun e => h.2 (changed.2 e)⟩]
        rfl

end Undates

/-- An action that neither asks for dates nor answers with any. -/
abbrev Dateless (x : Act ε α) : Prop :=
  Undates id x x

namespace Dateless

theorem pure (a : α) : Dateless (Pure.pure a : Act ε α) :=
  Undates.pure a

theorem ofExcept (r : Except ε α) : Dateless (Act.ofExcept r) :=
  Undates.ofExcept (congrFun Except.map_id r).symm

theorem outcome {x : Act ε α} (h : Dateless x) : Dateless (x.outcome : Act δ (Except ε α)) := by
  intro w
  rw [run_outcome, h w, Except.map_id]
  rfl

theorem mapError {x : Act ε α} (h : Dateless x) (f : ε → δ) : Dateless (x.mapError f) :=
  Undates.mapError h f

theorem bind {d : β → β} {x : Act ε α} {f g : α → Act ε β} (hx : Dateless x)
    (hf : ∀ a, Undates d (f a) (g a)) : Undates d (x >>= f) (x >>= g) :=
  Undates.bind hx hf

theorem read {call : StoreCall} {f : Store → Except StoreError α}
    (same : ∀ s, f s.undated = f s) : Dateless (Act.read call f) :=
  Undates.read fun s => (same s).trans (congrFun Except.map_id (f s)).symm

end Dateless

end Act

theorem undates_getAccount (id : AccountId) :
    Undates Account.undated (getAccount id) (getAccount id) :=
  .read fun s => s.getAccount_undated id

theorem undates_findByUsername (name : String) :
    Undates (Option.map Account.undated) (findByUsername name) (findByUsername name) :=
  .read fun s => congrArg Except.ok (s.findByUsername_undated name)

theorem undates_findByEmail (email : String) :
    Undates (List.map Account.undated) (findByEmail email) (findByEmail email) :=
  .read fun s => congrArg Except.ok (s.findByEmail_undated email)

theorem undates_findByFullName (name : String) :
    Undates (List.map Account.undated) (findByFullName name) (findByFullName name) :=
  .read fun s => congrArg Except.ok (s.findByFullName_undated name)

theorem dateless_getGroup (uuid : Uuid) : Dateless (getGroup uuid) :=
  .read fun s => s.getGroup_undated uuid

theorem dateless_findGroupByName (name : String) : Dateless (findGroupByName name) :=
  .read fun s => congrArg Except.ok (s.findGroupByName_undated name)

theorem dateless_findGroupById (id : GroupNumber) : Dateless (findGroupById id) :=
  .read fun s => congrArg Except.ok (s.findGroupById_undated id)

theorem dateless_groupsContaining (id : AccountId) : Dateless (groupsContaining id) :=
  .read fun s => congrArg Except.ok (s.groupsContaining_undated id)

theorem undates_createAccount (n : NewAccount) :
    Undates Account.undated (createAccount n) (createAccount n.undated) := by
  refine .write (fun s => s.createAccount_undated n) fun s a t created same => ?_
  have accounts := congrArg List.length (congrArg Store.accounts same)
  rw [Store.accounts_undated, Store.accounts_undated, (Store.createAccount_eq_ok created).2.1,
    List.length_map, List.length_map, List.length_append, List.length_singleton] at accounts
  omega

theorem dateless_updateMembers (uuid : Uuid) (modify : AccountSet → AccountSet) :
    Dateless (updateMembers uuid modify) := by
  refine .write (fun s => s.updateMembers_undated uuid modify) fun s g t written same => ?_
  have groups := congrArg Store.groups same
  rw [Store.groups_undated, Store.groups_undated] at groups
  exact Store.eq_of_updateMembers written groups

theorem dateless_lookupUser (name : String) : Dateless (lookupUser name) := by
  intro w
  rw [Except.map_id]
  rfl

theorem undates_findAccount (id : AccountId) :
    Undates (Option.map Account.undated) (findAccount id) (findAccount id) := by
  refine (undates_getAccount id).outcome.bind fun found => ?_
  cases found with
  | ok a => exact .pure (some a)
  | error e => cases e <;> first | exact .pure none | exact .fail _

theorem undates_identify (id : AccountId) :
    Undates Caller.undated (identify id) (identify id) := by
  refine (undates_getAccount id).outcome.bind fun found => ?_
  cases found with
  | ok a =>
    show Undates Caller.undated (if a.active then _ else _) (if a.active then _ else _)
    split
    · exact .pure (Caller.user a)
    · exact .fail _
  | error e => cases e <;> exact .fail _

theorem undates_accountsById (id : AccountId) :
    Undates (List.map Account.undated) (accountsById id) (accountsById id) := by
  refine (undates_findAccount id).bind fun found => ?_
  cases found with
  | none => exact .pure []
  | some a => exact .pure [a]

theorem undates_accountsByName (token : String) :
    Undates (List.map Account.undated) (accountsByName token) (accountsByName token) := by
  have byFullName := (undates_findByFullName token).mapError ApiError.ofStore
  refine ((undates_findByUsername token).mapError _).bind fun found => ?_
  cases found with
  | some a => exact .pure [a]
  | none =>
    show Undates _ (if '@' ∈ token.toList then _ else _) (if '@' ∈ token.toList then _ else _)
    split
    · refine ((undates_findByEmail token).mapError _).bind fun found => ?_
      cases found with
      | nil => exact byFullName
      | cons a rest => exact .pure (a :: rest)
    · exact byFullName

theorem undates_candidates (token : String) :
    Undates (List.map Account.undated) (candidates token) (candidates token) := by
  unfold candidates
  split
  · exact .pure []
  split
  · exact undates_accountsById _
  split
  · exact (undates_findByEmail _).mapError _
  split
  · exact undates_accountsById _
  · exact undates_accountsByName token

theorem dateless_isAdministrator (adminGroup : String) (viewer : AccountId) :
    Dateless (isAdministrator adminGroup viewer) :=
  (dateless_findGroupByName adminGroup).bind fun _ => .pure _

section
variable (settings : Settings) (caller : Caller)

@[simp] theorem accountId?_undated : caller.undated.accountId? = caller.accountId? := by
  cases caller <;> rfl

theorem dateless_canSee (a : Account) : Dateless (canSee settings caller a) := by
  unfold canSee
  split
  · exact .pure _
  split
  · exact .pure _
  refine ((dateless_isAdministrator _ _).mapError _).bind fun admin => ?_
  split
  · exact .pure _
  split
  · exact .pure _
  · exact .pure _
  · exact ((dateless_groupsContaining _).mapError _).bind fun _ =>
      ((dateless_groupsContaining _).mapError _).bind fun _ => .pure _

theorem canSee_undated (a : Account) :
    canSee settings caller.undated a.undated = canSee settings caller a := by
  unfold canSee
  rw [accountId?_undated]
  rfl

theorem undates_splitVisible (accounts : List Account) :
    Undates Matches.undated (splitVisible settings caller accounts)
      (splitVisible settings caller.undated (accounts.map Account.undated)) := by
  induction accounts with
  | nil => exact .pure (Matches.mk [] 0)
  | cons a rest ih =>
    rw [List.map_cons, splitVisible, splitVisible, canSee_undated]
    refine (dateless_canSee settings caller a).bind fun seen => ih.bind fun m => ?_
    cases seen with
    | true => exact .pure { m with visible := a :: m.visible }
    | false => exact .pure { m with hidden := m.hidden + 1 }

theorem requireUser_undated :
    caller.undated.requireUser = caller.requireUser.map Account.undated := by
  cases caller <;> rfl

theorem undates_lookupAccounts (token : String) :
    Undates Matches.undated (lookupAccounts settings caller token)
      (lookupAccounts settings caller.undated token) := by
  unfold lookupAccounts
  dsimp only
  split
  · exact (Undates.ofExcept (requireUser_undated caller)).bind fun a => .pure (Matches.mk [a] 0)
  · exact (undates_candidates _).bind fun found => undates_splitVisible settings caller found

theorem unique_undated (m : Matches) (token : String) :
    m.undated.unique token = (m.unique token).map Account.undated := by
  obtain ⟨visible, hidden⟩ := m
  cases visible with
  | nil => rfl
  | cons a rest => cases rest <;> rfl

omit settings caller

theorem dateless_checkEmailFree (email : Option String) : Dateless (checkEmailFree email) := by
  cases email with
  | none => exact .pure _
  | some email =>
    refine ((undates_findByEmail email).mapError _).bind fun found => ?_
    cases found with
    | nil => exact .pure _
    | cons a rest => exact .fail _

/-- An account of an entry is created at any time as it is created at no time. -/
theorem dateless_createFromEntry (e : DirectoryEntry) : Dateless (createFromEntry e) := by
  have timed : Undates (fun _ => 0) (Act.now : Act ProvisionError Int64) Act.now := fun _ => rfl
  refine (dateless_checkEmailFree e.email).bind fun _ => timed.bind fun time => ?_
  exact ((undates_createAccount (e.newAccount time)).mapError _).bind fun a => .pure _

theorem dateless_accountOfEntry (name : String) (e : DirectoryEntry) :
    Dateless (accountOfEntry name .trusted e) := by
  refine (Dateless.pure ()).bind fun _ =>
    ((undates_findByUsername name).mapError _).bind fun found => ?_
  cases found with
  | some a => exact .pure _
  | none => exact dateless_createFromEntry e

theorem dateless_provision (name : String) : Dateless (provision name .trusted) := by
  unfold provision
  split
  · exact .fail _
  · refine ((dateless_lookupUser name).mapError _).bind fun found => ?_
    cases found with
    | none => exact .fail _
    | some e => exact dateless_accountOfEntry name e

theorem undates_resolveInDirectory (token : String) (missing : ApiError) :
    Undates Account.undated (resolveInDirectory token missing)
      (resolveInDirectory token missing) := by
  refine (dateless_lookupUser token).outcome.bind fun found => ?_
  split
  · exact .fail _
  · exact .fail _
  · exact .fail _
  · refine (dateless_provision token).outcome.bind fun made => ?_
    split
    · exact (undates_getAccount _).mapError _
    · exact .fail _
    · exact .fail _

variable (settings : Settings) (caller : Caller)

theorem undates_resolveAccount (token : String) :
    Undates Account.undated (resolveAccount settings caller token)
      (resolveAccount settings caller.undated token) := by
  refine (undates_lookupAccounts settings caller _).bind fun found => ?_
  have empty : found.undated.isEmpty = found.isEmpty := by
    rw [Matches.isEmpty, Matches.undated, List.isEmpty_map]
    rfl
  rw [unique_undated, empty]
  cases found.unique (Text.trim token) with
  | ok a => exact .pure a
  | error missing =>
    show Undates _ (if _ then _ else _) (if _ then _ else _)
    split
    · exact undates_resolveInDirectory _ _
    · exact .fail _

theorem dateless_resolveActive (token : String) :
    Undates id (resolveActive settings caller token)
      (resolveActive settings caller.undated token) := by
  refine (undates_resolveAccount settings caller token).bind fun a => ?_
  show Undates id (if a.active then _ else _) (if a.active then _ else _)
  split
  · exact .pure a.id
  · exact .fail _

theorem dateless_resolveAll (found : List AccountId) (tokens : List String) :
    Undates id (resolveAll settings caller found tokens)
      (resolveAll settings caller.undated found tokens) := by
  induction tokens generalizing found with
  | nil => exact .pure found
  | cons token tokens ih => exact (dateless_resolveActive settings caller token).bind fun a => ih _

theorem dateless_findGroup (uuid : Uuid) : Dateless (findGroup uuid) := by
  refine (dateless_getGroup uuid).outcome.bind fun found => ?_
  split
  · exact .pure _
  · exact .pure _
  · exact .fail _

theorem dateless_findGroupByNumberOrName (name : String) :
    Dateless (findGroupByNumberOrName name) := by
  have byName := (dateless_findGroupByName name).mapError ApiError.ofStore
  unfold findGroupByNumberOrName
  split
  · exact byName
  · refine ((dateless_findGroupById _).mapError _).bind fun found => ?_
    split
    · exact .pure _
    · exact byName

theorem dateless_findGroupReference (name : String) : Dateless (findGroupReference name) := by
  unfold findGroupReference
  split
  · exact .pure _
  split
  · exact (dateless_findGroup _).bind fun _ => .pure _
  · exact (dateless_findGroupByNumberOrName name).bind fun _ => .pure _

theorem dateless_ownsGroup (viewer : AccountId) (g : Group) :
    Dateless (ownsGroup settings viewer g) := by
  refine ((dateless_isAdministrator _ _).mapError _).bind fun admin => ?_
  split
  · exact .pure _
  split
  · exact .pure _
  · exact (dateless_findGroup _).bind fun _ => .pure _

theorem dateless_groupAccess (g : GroupReference) : Dateless (groupAccess settings caller g) := by
  unfold groupAccess
  split
  · exact .pure _
  split
  · exact .pure _
  · exact (dateless_ownsGroup settings _ _).bind fun _ => .pure _

theorem dateless_openGroup (name : String) : Dateless (openGroup settings caller name) := by
  refine (dateless_findGroupReference name).bind fun found => ?_
  split
  · exact .fail _
  · refine (dateless_groupAccess settings caller _).bind fun access => ?_
    split
    · exact .pure _
    · exact .fail _

theorem openGroup_undated (name : String) :
    openGroup settings caller.undated name = openGroup settings caller name := by
  have access : groupAccess settings caller.undated = groupAccess settings caller := by
    funext g
    unfold groupAccess
    rw [accountId?_undated]
  rw [openGroup, openGroup, access]

theorem dateless_addIds (uuid : Uuid) (ids : List AccountId) : Dateless (addIds uuid ids) := by
  cases ids with
  | nil => exact .pure _
  | cons a rest => exact ((dateless_updateMembers uuid _).mapError _).bind fun _ => .pure _

theorem dateless_requiredSummary (details : Bool) (a : AccountId) :
    Dateless (requiredSummary details a) := by
  refine (undates_findAccount a).bind fun found => ?_
  cases found with
  | none => exact .fail _
  | some b => cases details <;> exact .pure _

theorem dateless_summaries {summary : AccountId → Act ApiError AccountSummary}
    (each : ∀ a, Dateless (summary a)) (ids : List AccountId) :
    Dateless (summaries summary ids) := by
  induction ids with
  | nil => exact .pure _
  | cons a rest ih => exact (each a).bind fun _ => ih.bind fun _ => .pure _

theorem dateless_addMembers (o : OpenGroup) (tokens : List String) :
    Undates id (addMembers settings caller o tokens)
      (addMembers settings caller.undated o tokens) := by
  refine (Dateless.ofExcept _).bind fun g =>
    (Undates.ofExcept (requireUser_undated caller)).bind fun _ => ?_
  split
  · exact .fail _
  · exact (dateless_resolveAll settings caller [] tokens).bind fun ids =>
      (dateless_addIds g.uuid ids).bind fun _ =>
        dateless_summaries (dateless_requiredSummary true) ids

end

end CodeReview
