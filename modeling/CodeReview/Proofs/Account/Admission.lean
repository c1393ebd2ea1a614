import Mathlib.Data.String.Basic
import CodeReview.Proofs.Account.Matching
import CodeReview.Proofs.Store.Distinct
set_option autoImplicit false

/-!
When a token brings in an account from the directory. The directory is asked only about a username
that nothing in the store matches, and it has to know the user both times it is asked. The account
is made unless its username or its mail address is in use, and whenever none is made the token
means what the store alone says, but for a directory that is out of reach and for the account that
has the name already.
-/
namespace CodeReview
open Act

theorem utf8Size_of_ascii {c : Char} (h : c.val ≤ 127) : c.utf8Size = 1 :=
  if_pos h

theorem utf8Size_fold (c : Char) : (Text.fold c).utf8Size = c.utf8Size := by
  unfold Text.fold Char.toLower
  split
  · next capital =>
    have upper : c.val.toNat ≤ 90 := UInt32.le_iff_toNat_le.1 capital.2
    rw [utf8Size_of_ascii, utf8Size_of_ascii]
    · exact UInt32.le_iff_toNat_le.2 (by simp only [UInt32.reduceToNat]; omega)
    · show c.val + 32 ≤ 127
      rw [UInt32.le_iff_toNat_le, UInt32.toNat_add]
      simp only [UInt32.reduceToNat]
      omega
  · rfl

theorem utf8Len_fold (cs : List Char) : String.utf8Len (cs.map Text.fold) = String.utf8Len cs := by
  induction cs with
  | nil => rfl
  | cons c cs ih => rw [List.map_cons, String.utf8Len_cons, String.utf8Len_cons, ih, utf8Size_fold]

theorem sameUntilNul_of_folded {as bs : List Char} (h : as.map Text.fold = bs.map Text.fold) :
    sameUntilNul as bs = true := by
  induction as generalizing bs with
  | nil =>
    obtain rfl := List.map_eq_nil_iff.1 h.symm
    rfl
  | cons a as ih =>
    obtain ⟨b, bs, rfl, letter, rest⟩ := List.map_eq_cons_iff.1 h.symm
    unfold sameUntilNul
    split
    · rfl
    · simp [letter, ih rest.symm]

theorem folded_of_sameUntilNul {as bs : List Char} (h : sameUntilNul as bs = true) :
    as.map Text.fold = bs.map Text.fold ∨ '\x00' ∈ as ∧ '\x00' ∈ bs := by
  induction as generalizing bs with
  | nil =>
    cases bs with
    | nil => exact .inl rfl
    | cons b bs => cases h
  | cons a as ih =>
    cases bs with
    | nil => cases h
    | cons b bs =>
      unfold sameUntilNul at h
      split at h
      · next nul => simp [nul]
      · simp only [Bool.and_eq_true, decide_eq_true_eq] at h
        rcases ih h.2 with same | both
        · exact .inl (by rw [List.map_cons, List.map_cons, h.1, same])
        · exact .inr ⟨List.mem_cons_of_mem a both.1, List.mem_cons_of_mem b both.2⟩

namespace Store
variable {s t : Store} {a b : String}

/-- Addresses that differ at most in the case of letters are the same to every store. -/
theorem sameMail_of_sameFolded (s : Store) (h : Text.sameFolded a b = true) :
    s.sameMail a b = true := by
  cases s with
  | memory m => exact h
  | tables t =>
    have folded := Text.sameFolded_iff.1 h
    have size : a.utf8ByteSize = b.utf8ByteSize := by
      rw [← String.ofList_toList (s := a), ← String.ofList_toList (s := b),
        String.utf8ByteSize_ofList, String.utf8ByteSize_ofList, ← utf8Len_fold a.toList, folded,
        utf8Len_fold]
    show sameEmail a b = true
    rw [sameEmail, size, sameUntilNul_of_folded folded]
    simp

/-- Tables take others for the same only when both have a NUL character. -/
theorem sameFolded_of_sameMail (h : s.sameMail a b = true) :
    Text.sameFolded a b = true ∨
      s.inLists = false ∧ '\x00' ∈ a.toList ∧ '\x00' ∈ b.toList := by
  cases s with
  | memory m => exact .inl h
  | tables t =>
    have agree : sameUntilNul a.toList b.toList = true := (Bool.and_eq_true_iff.1 h).2
    rcases folded_of_sameUntilNul agree with same | nul
    · exact .inl (Text.sameFolded_iff.2 same)
    · exact .inr ⟨rfl, nul⟩

/-- One more account can get a number. -/
def HasRoom : Store → Prop
  | .memory m => m.nextAccount.toNat + 1 < UInt32.size
  | .tables t => nextNumber firstAccount.toNat (t.accounts.map fun a => a.id.number) < UInt32.size

theorem createAccount_of_taken {n : NewAccount} {name : String} (named : n.username = some name)
    (taken : ∃ a ∈ s.accounts, a.username = some name) :
    s.createAccount n = .error (.duplicateUsername name) := by
  have used : (s.accounts.any fun a => a.username = some name) = true := by
    simpa only [List.any_eq_true, decide_eq_true_eq] using taken
  cases s with
  | memory m =>
    have filtered : n.username.filter m.usernameTaken = some name := by
      rw [named]
      exact Option.filter_some_pos used
    rw [createAccount, MemoryStore.createAccount, filtered]
    rfl
  | tables t =>
    have filtered : n.username.filter t.usernameTaken = some name := by
      rw [named]
      exact Option.filter_some_pos used
    rw [createAccount, TableStore.createAccount, filtered]
    rfl

theorem createAccount_of_free (room : s.HasRoom) {n : NewAccount} {name : String}
    (named : n.username = some name) (free : ∀ a ∈ s.accounts, a.username ≠ some name) :
    ∃ a t, s.createAccount n = .ok (a, t) := by
  have unused : (s.accounts.any fun a => a.username = some name) = false := by
    simpa only [List.any_eq_false, decide_eq_true_eq] using free
  cases s with
  | memory m =>
    have filtered : n.username.filter m.usernameTaken = none := by
      rw [named, Option.filter_some_eq_none]
      exact Bool.not_eq_true _ ▸ unused
    have more : m.nextAccount.toNat + 1 ≠ UInt32.size := Nat.ne_of_lt room
    rw [createAccount, MemoryStore.createAccount, filtered]
    dsimp only
    rw [if_neg more]
    exact ⟨_, _, rfl⟩
  | tables t =>
    have filtered : n.username.filter t.usernameTaken = none := by
      rw [named, Option.filter_some_eq_none]
      exact Bool.not_eq_true _ ▸ unused
    have given : column32 (nextNumber firstAccount.toNat (t.accounts.map fun a => a.id.number)) =
        .ok _ := if_pos room
    rw [createAccount, TableStore.createAccount, filtered]
    dsimp only
    rw [given]
    exact ⟨_, _, rfl⟩

end Store

/-- The reply of the directory about a name and the world after it. Where there is an entry the
directory is asked once more, and that reply counts. -/
def World.consult (w : World) (name : String) : LookupReply × World :=
  match (w.directory.lookup name).1 with
  | .ok (some _) =>
    (((w.asked name).directory.lookup name).1, (w.asked name).asked name)
  | reply => (reply, w.asked name)

theorem World.consult_store (w : World) (name : String) :
    (w.consult name).2.store = w.store ∧ (w.consult name).2.failing = w.failing ∧
      (w.consult name).2.now = w.now ∧ (w.consult name).2.readOnly = w.readOnly := by
  unfold consult
  split <;> exact ⟨rfl, rfl, rfl, rfl⟩

section
variable {name : String} {missing : ApiError} {w : World}

theorem run_resolveInDirectory (valid : isValidUsername name = true) :
    (resolveInDirectory name missing).run w =
      match (w.consult name).1 with
      | .error (.transport reason) =>
        (.error (.directoryUnreachable reason), (w.consult name).2)
      | .ok (some e) =>
        match (accountOfEntry name .trusted e).run (w.consult name).2 with
        | (.ok p, v) => ((Act.getAccount p.account).mapError .ofStore).run v
        | (.error (.directory (.transport reason)), v) => (.error (.directoryUnreachable reason), v)
        | (.error _, v) => (.error missing, v)
      | _ => (.error missing, (w.consult name).2) := by
  unfold World.consult
  rw [resolveInDirectory, run_bind, run_outcome, run_lookupUser]
  cases first : (w.directory.lookup name).1 with
  | error d => cases d <;> rfl
  | ok found =>
    cases found with
    | none => rfl
    | some e =>
      dsimp only
      rw [show ({ w with directory := _ } : World) = w.asked name from rfl, run_bind, run_outcome,
        run_provision valid]
      cases second : ((w.asked name).directory.lookup name).1 with
      | error d => cases d <;> rfl
      | ok found =>
        cases found with
        | none => rfl
        | some e =>
          dsimp only
          generalize (accountOfEntry name .trusted e).run ((w.asked name).asked name) = made
          obtain ⟨result, v⟩ := made
          cases result with
          | ok p => rfl
          | error d =>
            cases d with
            | directory d => cases d <;> rfl
            | _ => rfl

end

/-- No account has the mail address or the username of an entry. -/
structure Store.Admits (s : Store) (same : String → String → Bool) (e : DirectoryEntry) : Prop where
  email : ∀ mail ∈ e.email, ∀ a ∈ s.accounts, ∀ used ∈ a.preferredEmail, same used mail = false
  username : ∀ a ∈ s.accounts, a.username ≠ some e.username

/-- Nothing fails: no store call, no write, and there is a number for one more account. -/
structure World.Works (w : World) : Prop where
  failing : w.failing = []
  writable : w.readOnly = false
  room : w.store.HasRoom

section
variable {name : String} {w : World} {e : DirectoryEntry}

theorem findByEmail_eq_nil {s : Store} {mail : String} :
    s.findByEmail mail = [] ↔
      ∀ a ∈ s.accounts, ∀ used ∈ a.preferredEmail, s.sameMail used mail = false := by
  rw [Store.findByEmail_eq, List.filter_eq_nil_iff]
  refine forall₂_congr fun a _ => ?_
  cases a.preferredEmail with
  | none => simp
  | some used => simp

theorem run_checkEmailFree (hf : w.failing = []) (email : Option String) :
    (checkEmailFree email).run w = match email.filter fun mail => w.store.findByEmail mail ≠ [] with
      | some mail => (.error (.duplicateEmail mail), w)
      | none => (.ok (), w) := by
  cases email with
  | none => rfl
  | some mail =>
    rw [checkEmailFree, run_bind, run_mapError, Act.findByEmail, run_read_of_works hf,
      Option.filter_some]
    cases w.store.findByEmail mail <;> rfl

theorem run_createFromEntry_of_admits (works : w.Works)
    (admits : w.store.Admits w.store.sameMail e) :
    ∃ a s, w.store.createAccount (e.newAccount w.now) = .ok (a, s) ∧
      (createFromEntry e).run w = (.ok ⟨a.id, true⟩, { w with store := s }) := by
  obtain ⟨a, s, made⟩ := Store.createAccount_of_free works.room
    (n := e.newAccount w.now) rfl admits.username
  have free : (e.email.filter fun mail => w.store.findByEmail mail ≠ []) = none := by
    rw [Option.filter_eq_none_iff]
    intro mail given
    simpa using findByEmail_eq_nil.2 (admits.email mail given)
  have checked : (checkEmailFree e.email).run w = (.ok (), w) := by
    rw [run_checkEmailFree works.failing, free]
  have written : (Act.createAccount (e.newAccount w.now)).run w = (.ok a, { w with store := s }) :=
    run_write_eq_ok.2 ⟨by simp [works.failing], s, made, by simp [works.writable], rfl⟩
  refine ⟨a, s, made, ?_⟩
  rw [createFromEntry, run_bind_of_ok checked, run_bind_of_ok (run_now w),
    run_bind_of_ok (run_mapError_eq_ok.2 written)]
  rfl

theorem run_createFromEntry_of_refused (hf : w.failing = [])
    (refused : ¬w.store.Admits w.store.sameMail e) :
    ∃ d, (createFromEntry e).run w = (.error d, w) ∧ ∀ f, d ≠ .directory f := by
  have checked := run_checkEmailFree hf e.email
  cases used : e.email.filter fun mail => w.store.findByEmail mail ≠ [] with
  | some mail =>
    rw [used] at checked
    refine ⟨.duplicateEmail mail, ?_, by simp⟩
    rw [createFromEntry, run_bind, checked]
  | none =>
    rw [used] at checked
    have free : ∀ mail ∈ e.email, ∀ a ∈ w.store.accounts, ∀ used ∈ a.preferredEmail,
        w.store.sameMail used mail = false := by
      rw [Option.filter_eq_none_iff] at used
      intro mail given
      exact findByEmail_eq_nil.1 (by simpa using used mail given)
    have taken : ∃ a ∈ w.store.accounts, a.username = some e.username := by
      by_contra none
      exact refused ⟨free, by simpa using none⟩
    have failed := Store.createAccount_of_taken (n := e.newAccount w.now) rfl taken
    refine ⟨.duplicateUsername e.username, ?_, by simp⟩
    rw [createFromEntry, run_bind_of_ok checked, run_bind_of_ok (run_now w), run_bind, run_mapError,
      Act.createAccount, run_write, if_neg (by simp [hf]), failed]
    rfl

theorem accountOfEntry_of_unnamed (hf : w.failing = [])
    (absent : ∀ a ∈ w.store.accounts, a.username ≠ some name) :
    (accountOfEntry name .trusted e).run w = (createFromEntry e).run w := by
  have unknown : w.store.findByUsername name = none := by
    simpa [Store.findByUsername_eq] using absent
  rw [accountOfEntry, checkCredentials, run_bind_of_ok (run_pure () w), run_bind, run_mapError,
    findByUsername, run_read_of_works hf, unknown]
  rfl

end

/-- What the store alone says about a token without the blanks around it. -/
def localResult (settings : Settings) (caller : Caller) (token : String) (w : World) :
    Except ApiError Account :=
  ((parseAccount settings caller (Text.trim token)).run w).1

/-- The directory may be asked about a token. -/
structure Unsettled (settings : Settings) (caller : Caller) (token : String) (w : World) :
    Prop where
  uses : settings.authType.usesDirectory = true
  username : isValidUsername (Text.trim token) = true
  other : Text.trim token ≠ "self"
  nothing : (lookupAccounts settings caller (Text.trim token)).run w = (.ok ⟨[], 0⟩, w)

/-- What resolving a token is to come to, and the world it is to leave. The comparison of mail
addresses ignores the case of letters. -/
inductive Promised (settings : Settings) (caller : Caller) (token : String) (w : World) :
    Except ApiError Account × World → Prop where
  | settled (h : ¬Unsettled settings caller token w) :
    Promised settings caller token w (localResult settings caller token w, w)
  | unreachable (h : Unsettled settings caller token w) {reason : String} {v : World}
    (said : w.consult (Text.trim token) = (.error (.transport reason), v)) :
    Promised settings caller token w (.error (.directoryUnreachable reason), v)
  | unknown (h : Unsettled settings caller token w) {reply : LookupReply} {v : World}
    (said : w.consult (Text.trim token) = (reply, v)) (entry : ∀ e, reply ≠ .ok (some e))
    (reached : ∀ reason, reply ≠ .error (.transport reason)) :
    Promised settings caller token w (localResult settings caller token w, v)
  | named (h : Unsettled settings caller token w) {e : DirectoryEntry} {v : World} {a : Account}
    (said : w.consult (Text.trim token) = (.ok (some e), v)) (there : a ∈ w.store.accounts)
    (name : a.username = some (Text.trim token)) : Promised settings caller token w (.ok a, v)
  | refused (h : Unsettled settings caller token w) {e : DirectoryEntry} {v : World}
    (said : w.consult (Text.trim token) = (.ok (some e), v))
    (absent : ∀ a ∈ w.store.accounts, a.username ≠ some (Text.trim token))
    (used : ¬w.store.Admits Text.sameFolded e) :
    Promised settings caller token w (localResult settings caller token w, v)
  | created (h : Unsettled settings caller token w) {e : DirectoryEntry} {v : World} {a : Account}
    {s : Store} (said : w.consult (Text.trim token) = (.ok (some e), v))
    (absent : ∀ a ∈ w.store.accounts, a.username ≠ some (Text.trim token))
    (free : w.store.Admits Text.sameFolded e)
    (new : a = ⟨a.id, some e.username, e.fullName, e.email, true, w.now⟩)
    (accounts : s.accounts = w.store.accounts ++ [a])
    (groups : s.groups = w.store.groups) (changes : s.changes = w.store.changes) :
    Promised settings caller token w (.ok a, { v with store := s })

/-- The store takes the mail address of an entry for one that is in use, though the addresses
differ in more than the case of letters. -/
structure Misread (settings : Settings) (caller : Caller) (token : String) (w : World)
    (e : DirectoryEntry) : Prop where
  unsettled : Unsettled settings caller token w
  said : (w.consult (Text.trim token)).1 = .ok (some e)
  absent : ∀ a ∈ w.store.accounts, a.username ≠ some (Text.trim token)
  free : w.store.Admits Text.sameFolded e
  used : ∃ mail ∈ e.email, ∃ a ∈ w.store.accounts, ∃ used ∈ a.preferredEmail,
    w.store.sameMail used mail = true

section
variable {settings : Settings} {caller : Caller} {token : String} {w : World}

theorem localResult_of_unsettled (h : Unsettled settings caller token w) :
    localResult settings caller token w = .error (.accountMissing (Text.trim token)) := by
  rw [localResult, parseAccount, run_bind_of_ok h.nothing]
  rfl

theorem run_resolveAccount_of_unsettled (h : Unsettled settings caller token w) :
    (resolveAccount settings caller token).run w =
      (resolveInDirectory (Text.trim token) (.accountMissing (Text.trim token))).run w := by
  rw [run_resolveAccount, h.nothing]
  dsimp only [Matches.unique]
  rw [h.uses, h.username]
  rfl

theorem run_resolveAccount_of_settled (h : ¬Unsettled settings caller token w) :
    (resolveAccount settings caller token).run w = (localResult settings caller token w, w) := by
  have reads := (reads_lookupAccounts settings caller (Text.trim token)).run_eq w
  rw [run_resolveAccount, localResult, parseAccount, run_bind, reads]
  cases looked : ((lookupAccounts settings caller (Text.trim token)).run w).1 with
  | error e => rfl
  | ok m =>
    dsimp only
    rw [run_ofExcept]
    cases m.unique (Text.trim token) with
    | ok a => rfl
    | error missing =>
      dsimp only
      refine if_neg fun gates => h ?_
      simp only [Bool.and_eq_true] at gates
      obtain rfl := isEmpty_iff.1 gates.1.2
      rw [looked] at reads
      refine ⟨gates.1.1, gates.2, fun self => ?_, reads⟩
      obtain ⟨-, a, -, shown⟩ | ⟨other, -⟩ := lookupAccounts_eq_ok reads
      · cases shown
      · rw [Text.trim_trim] at other
        exact other self

/-- Whoever has the name that the directory was asked about is who the token means. -/
theorem run_resolveAccount_of_named (works : w.Works) (hs : w.store.Reachable)
    (h : Unsettled settings caller token w) {e : DirectoryEntry} {v : World} {a : Account}
    (said : w.consult (Text.trim token) = (.ok (some e), v)) (there : a ∈ w.store.accounts)
    (name : a.username = some (Text.trim token)) :
    (resolveAccount settings caller token).run w = (.ok a, v) := by
  obtain ⟨store, failing, -⟩ := w.consult_store (Text.trim token)
  rw [said] at store failing
  dsimp only at store failing
  have found : v.store.findByUsername (Text.trim token) = some a := by
    rw [store, hs.distinct.findByUsername there name]
  have known : (Act.getAccount a.id).run v = (.ok a, v) := by
    rw [Act.getAccount, run_read_of_works (failing.trans works.failing), store,
      hs.numbered.getAccount_of_mem there]
  rw [run_resolveAccount_of_unsettled h, run_resolveInDirectory h.username, said]
  dsimp only
  rw [accountOfEntry_of_existing (by simp [failing, works.failing]) found]
  exact run_mapError_eq_ok.2 known

theorem run_resolveAccount_of_refused (works : w.Works) (h : Unsettled settings caller token w)
    {e : DirectoryEntry} {v : World} (said : w.consult (Text.trim token) = (.ok (some e), v))
    (absent : ∀ a ∈ w.store.accounts, a.username ≠ some (Text.trim token))
    (used : ¬w.store.Admits w.store.sameMail e) :
    (resolveAccount settings caller token).run w = (localResult settings caller token w, v) := by
  obtain ⟨store, failing, -⟩ := w.consult_store (Text.trim token)
  rw [said] at store failing
  dsimp only at store failing
  rw [← store] at absent used
  obtain ⟨d, failed, other⟩ := run_createFromEntry_of_refused (failing.trans works.failing) used
  rw [run_resolveAccount_of_unsettled h, run_resolveInDirectory h.username, said,
    localResult_of_unsettled h]
  dsimp only
  rw [accountOfEntry_of_unnamed (failing.trans works.failing) absent, failed]
  cases d with
  | directory d => exact absurd rfl (other d)
  | _ => rfl

theorem run_resolveAccount_of_admits (works : w.Works) (hs : w.store.Reachable)
    (h : Unsettled settings caller token w) {e : DirectoryEntry} {v : World}
    (said : w.consult (Text.trim token) = (.ok (some e), v))
    (absent : ∀ a ∈ w.store.accounts, a.username ≠ some (Text.trim token))
    (free : w.store.Admits w.store.sameMail e) :
    ∃ a s, w.store.createAccount (e.newAccount w.now) = .ok (a, s) ∧
      (resolveAccount settings caller token).run w = (.ok a, { v with store := s }) := by
  obtain ⟨store, failing, now, readOnly⟩ := w.consult_store (Text.trim token)
  rw [said] at store failing now readOnly
  dsimp only at store failing now readOnly
  have later : v.Works :=
    ⟨failing.trans works.failing, readOnly.trans works.writable, store ▸ works.room⟩
  rw [← store] at absent free
  obtain ⟨a, s, made, written⟩ := run_createFromEntry_of_admits later free
  rw [store, now] at made
  refine ⟨a, s, made, ?_⟩
  have next : s.Numbered := (hs.write (.createAccount made)).numbered
  have last : a ∈ s.accounts := by simp [(Store.createAccount_eq_ok made).2.1]
  have known : (Act.getAccount a.id).run { v with store := s } = (.ok a, { v with store := s }) :=
    run_read_eq_ok.2 ⟨by simp [later.failing], next.getAccount_of_mem last, rfl⟩
  rw [run_resolveAccount_of_unsettled h, run_resolveInDirectory h.username, said]
  dsimp only
  rw [accountOfEntry_of_unnamed later.failing absent, written]
  exact run_mapError_eq_ok.2 known

theorem Store.Admits.of_sameMail {s : Store} {e : DirectoryEntry} (h : s.Admits s.sameMail e) :
    s.Admits Text.sameFolded e where
  email mail given a there used has := by
    have other := h.email mail given a there used has
    rw [← Bool.not_eq_true] at other ⊢
    exact fun same => other (s.sameMail_of_sameFolded same)
  username := h.username

/-- An entry that no account stands against is admitted, unless its mail address is misread. -/
theorem admits_of_not_misread (h : Unsettled settings caller token w) {e : DirectoryEntry}
    (said : (w.consult (Text.trim token)).1 = .ok (some e))
    (absent : ∀ a ∈ w.store.accounts, a.username ≠ some (Text.trim token))
    (free : w.store.Admits Text.sameFolded e) (read : ¬Misread settings caller token w e) :
    w.store.Admits w.store.sameMail e where
  email mail given a there used has := by
    rw [← Bool.not_eq_true]
    exact fun same => read ⟨h, said, absent, free, mail, given, a, there, used, has, same⟩
  username := free.username

theorem promised_of_not_misread (works : w.Works) (hs : w.store.Reachable)
    (read : ∀ e, ¬Misread settings caller token w e) :
    Promised settings caller token w ((resolveAccount settings caller token).run w) := by
  by_cases h : Unsettled settings caller token w
  case neg =>
    rw [run_resolveAccount_of_settled h]
    exact .settled h
  cases said : w.consult (Text.trim token) with
  | mk reply v =>
    have run := run_resolveAccount_of_unsettled h
    rw [run_resolveInDirectory h.username, said] at run
    match reply with
    | .error (.transport reason) =>
      rw [run]
      exact .unreachable h said
    | .error (.protocol reason) =>
      rw [run, ← localResult_of_unsettled h]
      exact .unknown h said (by simp) (by simp)
    | .ok none =>
      rw [run, ← localResult_of_unsettled h]
      exact .unknown h said (by simp) (by simp)
    | .ok (some e) =>
      by_cases owner : ∃ a ∈ w.store.accounts, a.username = some (Text.trim token)
      · obtain ⟨a, there, name⟩ := owner
        rw [run_resolveAccount_of_named works hs h said there name]
        exact .named h said there name
      have absent : ∀ a ∈ w.store.accounts, a.username ≠ some (Text.trim token) :=
        fun a there name => owner ⟨a, there, name⟩
      by_cases free : w.store.Admits Text.sameFolded e
      · have admits := admits_of_not_misread h (by rw [said]) absent free (read e)
        obtain ⟨a, s, made, created⟩ :=
          run_resolveAccount_of_admits works hs h said absent admits
        obtain ⟨new, accounts, groups, changes⟩ := Store.createAccount_eq_ok made
        rw [created]
        exact .created h said absent free new accounts groups changes
      · rw [run_resolveAccount_of_refused works h said absent fun admits => free admits.of_sameMail]
        exact .refused h said absent free

theorem Misread.run_resolveAccount {e : DirectoryEntry} (works : w.Works)
    (h : Misread settings caller token w e) :
    (resolveAccount settings caller token).run w =
      (localResult settings caller token w, (w.consult (Text.trim token)).2) := by
  refine run_resolveAccount_of_refused works h.unsettled (Prod.ext h.said rfl) h.absent ?_
  intro admits
  obtain ⟨mail, given, a, there, used, has, same⟩ := h.used
  rw [admits.email mail given a there used has] at same
  cases same

theorem Misread.not_promised {e : DirectoryEntry} (works : w.Works)
    (misread : Misread settings caller token w e) :
    ¬Promised settings caller token w ((resolveAccount settings caller token).run w) := by
  intro promised
  have missing := localResult_of_unsettled misread.unsettled
  have said := misread.said
  rw [misread.run_resolveAccount works, missing] at promised
  generalize result : (Except.error _, _) = p at promised
  cases promised with
  | settled h => exact h misread.unsettled
  | unreachable _ told =>
    rw [told] at said
    cases said
  | unknown _ told entry =>
    rw [told] at said
    exact entry e said
  | named _ _ there name => exact misread.absent _ there name
  | refused _ told _ used =>
    rw [told] at said
    cases said
    exact used misread.free
  | created => cases (Prod.mk.inj result).1

/-- Resolving a token comes to what it should, unless a mail address is misread. -/
theorem promised_iff_not_misread (works : w.Works) (hs : w.store.Reachable) :
    Promised settings caller token w ((resolveAccount settings caller token).run w) ↔
      ¬∃ e, Misread settings caller token w e := by
  constructor
  · rintro promised ⟨e, misread⟩
    exact misread.not_promised works promised
  · exact fun read => promised_of_not_misread works hs (not_exists.1 read)

/-- A directory without NUL characters in its mail addresses is never misread. -/
theorem Misread.nul {e : DirectoryEntry} (h : Misread settings caller token w e) :
    w.store.inLists = false ∧ ∃ mail ∈ e.email, '\x00' ∈ mail.toList := by
  obtain ⟨mail, given, a, there, used, has, same⟩ := h.used
  rcases Store.sameFolded_of_sameMail same with folded | ⟨rows, -, nul⟩
  · rw [h.free.email mail given a there used has] at folded
    cases folded
  · exact ⟨rows, mail, given, nul⟩

end

/-- An account in tables and a directory of two users, one with a mail address that agrees with
that of the account up to a NUL character. -/
def nulMails : World where
  store := .tables { TableStore.empty with
    accounts := [⟨⟨1000⟩, some "owner", none, some "m\x00a", true, 0⟩] }
  failing := []
  directory := .listed [⟨⟨"guest", none, some "m\x00b"⟩, none⟩, ⟨⟨"clerk", none, none⟩, none⟩]
  now := 0
  readOnly := false

theorem reachable_nulMails : nulMails.store.Reachable :=
  .write .tables (.createAccount
    (show _ from rfl :
      Store.createAccount _ ⟨some "owner", none, some "m\x00a", true, 0⟩ = .ok (_, _)))

theorem works_nulMails : nulMails.Works :=
  ⟨rfl, rfl, show 1001 < UInt32.size by decide⟩

def ownerOfNul : Caller :=
  .user ⟨⟨1000⟩, some "owner", none, some "m\x00a", true, 0⟩

def ldap : Settings :=
  { Settings.default with authType := .ldap }

theorem misread_guest :
    Misread ldap ownerOfNul "guest" nulMails ⟨"guest", none, some "m\x00b"⟩ where
  unsettled := ⟨rfl, by decide, by decide, rfl⟩
  said := by decide
  absent := by decide
  free := ⟨by decide, by decide⟩
  used := ⟨_, rfl, _, List.mem_singleton_self _, _, rfl, by decide⟩

/-- The guest gets no account, although nobody has that mail address. -/
theorem guest_refused :
    nulMails.store.Reachable ∧ nulMails.Works ∧
      ((resolveAccount ldap ownerOfNul "guest").run nulMails).1 = .error (.accountMissing "guest") ∧
      ¬Promised ldap ownerOfNul "guest" nulMails
        ((resolveAccount ldap ownerOfNul "guest").run nulMails) :=
  ⟨reachable_nulMails, works_nulMails, by decide, misread_guest.not_promised works_nulMails⟩

/-- The clerk, who has no mail address, is served as promised. -/
theorem clerk_promised :
    nulMails.Works ∧ nulMails.store.Reachable ∧
      Promised ldap ownerOfNul "clerk" nulMails
        ((resolveAccount ldap ownerOfNul "clerk").run nulMails) := by
  refine ⟨works_nulMails, reachable_nulMails,
    (promised_iff_not_misread works_nulMails reachable_nulMails).2 ?_⟩
  rintro ⟨e, misread⟩
  obtain ⟨-, mail, given, -⟩ := misread.nul
  have said : (nulMails.consult (Text.trim "clerk")).1 = .ok (some ⟨"clerk", none, none⟩) := by
    decide
  rw [misread.said] at said
  cases said
  cases given

end CodeReview
