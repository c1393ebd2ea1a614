import CodeReview.Account.Lookup
import CodeReview.Proofs.Text.Blank
import CodeReview.Proofs.Ungrouped
set_option autoImplicit false

/-!
Looking up a token reads the store and changes nothing, and what it shows are accounts of the
store that the caller may see.
-/
namespace CodeReview
open Act

theorem ungrouped_findAccount (id : AccountId) : Ungrouped (findAccount id) :=
  (ungrouped_getAccount id).outcome.bind fun r => by
    split
    · exact .pure _
    · exact .pure _
    · exact .fail _

theorem ungrouped_summaryOf (details : Bool) (id : AccountId) :
    Ungrouped (summaryOf details id) := by
  refine (ungrouped_findAccount id).bind fun found => ?_
  cases found with
  | some a => exact .pure _
  | none => exact .pure _

theorem ungrouped_requiredSummary (details : Bool) (id : AccountId) :
    Ungrouped (requiredSummary details id) := by
  refine (ungrouped_findAccount id).bind fun found => ?_
  cases found with
  | some a => exact .pure _
  | none => exact .fail _

theorem ungrouped_summaries {summary : AccountId → Act ApiError AccountSummary}
    (h : ∀ id, Ungrouped (summary id)) (ids : List AccountId) :
    Ungrouped (summaries summary ids) := by
  induction ids with
  | nil => exact .pure _
  | cons id ids ih => exact (h id).bind fun _ => ih.bind fun _ => .pure _

theorem ungrouped_identify (id : AccountId) : Ungrouped (identify id) :=
  (ungrouped_getAccount id).outcome.bind fun r => by
    split
    · exact .ite (.pure _) (.fail _)
    · exact .fail _
    · exact .fail _

theorem ungrouped_accountsById (id : AccountId) : Ungrouped (accountsById id) :=
  (ungrouped_findAccount id).bind fun _ => .pure _

theorem ungrouped_accountsByName (token : String) : Ungrouped (accountsByName token) := by
  refine ((ungrouped_findByUsername token).mapError _).bind fun found => ?_
  cases found with
  | some a => exact .pure _
  | none =>
    refine .ite (((ungrouped_findByEmail token).mapError _).bind fun byEmail => ?_)
      ((ungrouped_findByFullName token).mapError _)
    cases byEmail with
    | nil => exact (ungrouped_findByFullName token).mapError _
    | cons a as => exact .pure _

theorem ungrouped_candidates (token : String) : Ungrouped (candidates token) := by
  unfold candidates
  split
  · exact .pure _
  · split
    · exact ungrouped_accountsById _
    · split
      · exact (ungrouped_findByEmail _).mapError _
      · split
        · exact ungrouped_accountsById _
        · exact ungrouped_accountsByName _

theorem reads_isAdministrator (adminGroup : String) (id : AccountId) :
    Reads (isAdministrator adminGroup id) :=
  (Reads.read _ _).bind fun _ => Reads.pure _

theorem reads_canSee (settings : Settings) (caller : Caller) (a : Account) :
    Reads (canSee settings caller a) := by
  unfold canSee
  split
  · exact Reads.pure _
  · refine Reads.ite (Reads.pure _)
      (((reads_isAdministrator _ _).mapError _).bind fun admin => ?_)
    refine Reads.ite (Reads.pure _) ?_
    split
    · exact Reads.pure _
    · exact Reads.pure _
    · exact ((Reads.read _ _).mapError _).bind fun _ =>
        ((Reads.read _ _).mapError _).bind fun _ => Reads.pure _

theorem reads_splitVisible (settings : Settings) (caller : Caller) (found : List Account) :
    Reads (splitVisible settings caller found) := by
  induction found with
  | nil => exact Reads.pure _
  | cons a rest ih =>
    exact (reads_canSee settings caller a).bind fun _ => ih.bind fun _ => Reads.pure _

theorem reads_lookupAccounts (settings : Settings) (caller : Caller) (token : String) :
    Reads (lookupAccounts settings caller token) := by
  unfold lookupAccounts
  dsimp only
  split
  · exact (Reads.ofExcept _).bind fun _ => Reads.pure _
  · exact (ungrouped_candidates _).reads.bind fun _ => reads_splitVisible _ _ _

theorem reads_parseAccount (settings : Settings) (caller : Caller) (token : String) :
    Reads (parseAccount settings caller token) :=
  (reads_lookupAccounts settings caller token).bind fun _ => Reads.ofExcept _

section
variable {w w' : World}

theorem identify_eq_ok {id : AccountId} {caller : Caller}
    (h : (identify id).run w = (.ok caller, w')) :
    ∃ a, caller = .user a ∧ w.store.getAccount id = .ok a ∧ a.active = true ∧ w' = w := by
  obtain rfl := (ungrouped_identify id).reads.world_eq h
  obtain ⟨q, v, hq, k⟩ := run_bind_eq_ok.1 h
  rw [run_outcome, Prod.mk.injEq, Except.ok.injEq] at hq
  obtain ⟨rfl, rfl⟩ := hq
  split at k
  · next a ha =>
    have got : (Act.getAccount id).run w' = (.ok a, w') := Prod.ext ha (Reads.read _ _ w')
    split at k
    · next active =>
      have user : Caller.user a = caller := Except.ok.inj (Prod.mk.inj k).1
      exact ⟨a, user.symm, (run_read_eq_ok.1 got).2.1, active, rfl⟩
    · simp at k
  · simp at k
  · simp at k

theorem run_findAccount (id : AccountId) :
    (findAccount id).run w = (if .getAccount ∈ w.failing then .error (.ofStore .lockPoisoned)
      else .ok (w.store.accounts.find? fun a => a.id = id), w) := by
  rw [findAccount, run_bind, run_outcome, getAccount, run_read]
  by_cases hc : StoreCall.getAccount ∈ w.failing
  · simp only [hc, if_true]
    rfl
  · simp only [hc, if_false, Store.getAccount_eq]
    cases w.store.accounts.find? fun a => a.id = id <;> rfl

theorem mem_of_findAccount {id : AccountId} {a : Account}
    (h : (findAccount id).run w = (.ok (some a), w')) : a ∈ w.store.accounts := by
  rw [run_findAccount] at h
  split at h
  · simp at h
  · exact List.mem_of_find?_eq_some (Except.ok.inj (Prod.mk.inj h).1)

theorem mem_of_accountsById {id : AccountId} {found : List Account}
    (h : (accountsById id).run w = (.ok found, w')) : ∀ a ∈ found, a ∈ w.store.accounts := by
  obtain ⟨o, v, ho, h⟩ := run_bind_eq_ok.1 h
  cases o with
  | none =>
    cases h
    simp
  | some a =>
    cases h
    simpa using mem_of_findAccount ho

theorem mem_of_accountsByEmail {email : String} {found : List Account}
    (h : ((Act.findByEmail email).mapError ApiError.ofStore).run w = (.ok found, w')) :
    ∀ a ∈ found, a ∈ w.store.accounts := by
  obtain ⟨-, hf, -⟩ := run_read_eq_ok.1 (run_mapError_eq_ok.1 h)
  cases hf
  exact fun a => Store.mem_of_findByEmail

theorem mem_of_accountsByFullName {name : String} {found : List Account}
    (h : ((Act.findByFullName name).mapError ApiError.ofStore).run w = (.ok found, w')) :
    ∀ a ∈ found, a ∈ w.store.accounts := by
  obtain ⟨-, hf, -⟩ := run_read_eq_ok.1 (run_mapError_eq_ok.1 h)
  cases hf
  exact fun a => Store.mem_of_findByFullName

theorem mem_of_accountsByName {token : String} {found : List Account}
    (h : (accountsByName token).run w = (.ok found, w')) : ∀ a ∈ found, a ∈ w.store.accounts := by
  obtain ⟨o, v, ho, k⟩ := run_bind_eq_ok.1 h
  obtain ⟨-, hu, rfl⟩ := run_read_eq_ok.1 (run_mapError_eq_ok.1 ho)
  cases o with
  | some a =>
    cases k
    simpa using (Store.mem_of_findByUsername (Except.ok.inj hu)).1
  | none =>
    dsimp only at k
    split at k
    · obtain ⟨es, u, he, kn⟩ := run_bind_eq_ok.1 k
      have found := mem_of_accountsByEmail he
      obtain rfl := ((Reads.read _ _).mapError _).world_eq he
      cases es with
      | nil => exact mem_of_accountsByFullName kn
      | cons e es =>
        cases kn
        exact found
    · exact mem_of_accountsByFullName k

theorem mem_of_candidates {token : String} {found : List Account}
    (h : (candidates token).run w = (.ok found, w')) : ∀ a ∈ found, a ∈ w.store.accounts := by
  unfold candidates at h
  split at h
  · cases h
    simp
  · split at h
    · exact mem_of_accountsById h
    · split at h
      · exact mem_of_accountsByEmail h
      · split at h
        · exact mem_of_accountsById h
        · exact mem_of_accountsByName h

/-- The caller may see an account in a world. -/
def Sees (settings : Settings) (caller : Caller) (w : World) (a : Account) : Prop :=
  ((canSee settings caller a).run w).1 = .ok true

theorem sees_self (settings : Settings) (w : World) (a : Account) :
    Sees settings (.user a) w a := by
  simp [Sees, canSee, Caller.accountId?]

theorem splitVisible_eq_ok {settings : Settings} {caller : Caller} {found : List Account}
    {m : Matches} (h : (splitVisible settings caller found).run w = (.ok m, w')) :
    (∀ a ∈ m.visible, a ∈ found ∧ Sees settings caller w a) ∧
      m.visible.length + m.hidden = found.length := by
  induction found generalizing m w' with
  | nil =>
    cases h
    simp
  | cons a rest ih =>
    obtain ⟨seen, v, hs, k⟩ := run_bind_eq_ok.1 h
    obtain rfl := (reads_canSee settings caller a).world_eq hs
    obtain ⟨n, u, hn, kn⟩ := run_bind_eq_ok.1 k
    obtain ⟨visible, count⟩ := ih hn
    cases seen with
    | true =>
      cases kn
      have sees : Sees settings caller v a := congrArg Prod.fst hs
      constructor
      · intro b hb
        obtain rfl | hb := List.mem_cons.1 hb
        · exact ⟨List.mem_cons_self, sees⟩
        · exact ⟨List.mem_cons_of_mem _ (visible b hb).1, (visible b hb).2⟩
      · show (n.visible.length + 1) + n.hidden = rest.length + 1
        omega
    | false =>
      cases kn
      refine ⟨fun b hb => ⟨List.mem_cons_of_mem _ (visible b hb).1, (visible b hb).2⟩, ?_⟩
      show n.visible.length + (n.hidden + 1) = rest.length + 1
      omega

theorem lookupAccounts_eq_ok {settings : Settings} {caller : Caller} {token : String}
    {m : Matches} (h : (lookupAccounts settings caller token).run w = (.ok m, w')) :
    (Text.trim token = "self" ∧ ∃ a, caller = .user a ∧ m = ⟨[a], 0⟩) ∨
      (Text.trim token ≠ "self" ∧ ∃ found, (candidates (Text.trim token)).run w = (.ok found, w) ∧
        (splitVisible settings caller found).run w = (.ok m, w)) := by
  obtain rfl := (reads_lookupAccounts settings caller token).world_eq h
  unfold lookupAccounts at h
  dsimp only at h
  split at h
  · next self =>
    obtain ⟨a, v, ha, k⟩ := run_bind_eq_ok.1 h
    cases caller with
    | anonymous => simp [Caller.requireUser] at ha
    | user b =>
      cases ha
      cases k
      exact .inl ⟨self, a, rfl, rfl⟩
  · next other =>
    obtain ⟨found, v, hf, k⟩ := run_bind_eq_ok.1 h
    obtain rfl := (ungrouped_candidates _).reads.world_eq hf
    exact .inr ⟨other, found, hf, k⟩

theorem unique_eq_ok {m : Matches} {token : String} {a : Account} :
    m.unique token = .ok a ↔ m.visible = [a] := by
  unfold Matches.unique
  split <;> simp_all

/-- What a lookup shows may be seen, and is in the store unless it is the caller. -/
theorem sees_of_lookupAccounts {settings : Settings} {caller : Caller} {token : String}
    {m : Matches} (h : (lookupAccounts settings caller token).run w = (.ok m, w')) :
    ∀ a ∈ m.visible, Sees settings caller w a ∧ (caller = .user a ∨ a ∈ w.store.accounts) := by
  obtain ⟨-, a, rfl, rfl⟩ | ⟨-, found, hc, hs⟩ := lookupAccounts_eq_ok h
  · simpa using sees_self settings w a
  · intro a ha
    obtain ⟨hf, sees⟩ := (splitVisible_eq_ok hs).1 a ha
    exact ⟨sees, .inr (mem_of_candidates hc a hf)⟩

end

end CodeReview
