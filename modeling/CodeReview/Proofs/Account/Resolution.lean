import CodeReview.Account.Resolve
import CodeReview.Proofs.Account.Provisioning
set_option autoImplicit false

/-!
Who is returned for a token. An account that was there before is returned to callers that may
see it, with one exception: the two ways to an account read a number differently. The store takes
it for the id of an account, and the directory takes it for a username.
-/
namespace CodeReview
open Act

theorem bracketed_of_last {opening closing c : Char} {cs : List Char} (ne : c ≠ closing) :
    bracketed opening closing (cs ++ [c]) = none := by
  have back : (cs ++ [c]).reverse = c :: cs.reverse := by simp
  rw [bracketed, back]
  dsimp only
  rw [if_neg fun both => ne both.1]

theorem bracketed_of_username {name : String} (hv : isValidUsername name = true)
    {opening closing : Char} (hc : Text.isAsciiAlphanumeric closing = false) :
    bracketed opening closing name.toList = none := by
  unfold isValidUsername at hv
  split at hv
  · simp at hv
  · next c cs hn =>
    have last : Text.isAsciiAlphanumeric ((c :: cs).getLast (by simp)) = true := by
      simp only [Bool.and_eq_true] at hv
      exact hv.1.2
    rw [hn, ← List.dropLast_concat_getLast (l := c :: cs) (by simp)]
    refine bracketed_of_last fun same => ?_
    rw [same, hc] at last
    cases last

/-- A username is a number or a name, and nothing with brackets. -/
theorem candidates_of_username {name : String} (hv : isValidUsername name = true) :
    candidates name = match AccountId.parse? name with
      | some id => accountsById id
      | none => accountsByName name := by
  have hne : name ≠ "" := by
    rintro rfl
    exact absurd hv (by decide)
  rw [candidates, if_neg hne]
  cases AccountId.parse? name with
  | some id => rfl
  | none =>
    have angle : bracketed '<' '>' name.toList = none := bracketed_of_username hv (by decide)
    have round : bracketed '(' ')' name.toList = none := bracketed_of_username hv (by decide)
    simp only [angle, bracketedId, round, Option.bind_none]

section
variable {settings : Settings} {caller : Caller} {token name : String} {w w' : World} {a : Account}

/-- Nothing matches a username when it is a number without account or nobody's name. -/
theorem no_candidates_of_username (hv : isValidUsername name = true)
    (h : (candidates name).run w = (.ok [], w')) :
    (∃ n, AccountId.parse? name = some n ∧ ∀ b ∈ w.store.accounts, b.id ≠ n) ∨
      w.store.findByUsername name = none := by
  rw [candidates_of_username hv] at h
  split at h
  · next n hn =>
    left
    refine ⟨n, hn, ?_⟩
    rw [accountsById, run_bind, run_findAccount] at h
    split at h
    · next o v hv =>
      rw [Prod.mk.injEq] at hv
      obtain ⟨ho, rfl⟩ := hv
      split at ho
      · simp at ho
      · cases ho
        have ho := Except.ok.inj (Prod.mk.inj h).1
        simpa [List.find?_eq_none] using ho
    · simp at h
  · right
    obtain ⟨o, v, ho, k⟩ := run_bind_eq_ok.1 h
    obtain ⟨-, hu, rfl⟩ := run_read_eq_ok.1 (run_mapError_eq_ok.1 ho)
    cases o with
    | none => exact Except.ok.inj hu
    | some b => cases k

theorem isEmpty_iff {m : Matches} : m.isEmpty = true ↔ m = ⟨[], 0⟩ := by
  obtain ⟨visible, hidden⟩ := m
  simp [Matches.isEmpty]

theorem resolveInDirectory_eq_ok {missing : ApiError} :
    (resolveInDirectory token missing).run w = (.ok a, w') ↔
      (∃ e, (w.directory.lookup token).1 = .ok (some e)) ∧
        ∃ p, (provision token .trusted).run (w.asked token) = (.ok p, w') ∧
          .getAccount ∉ w'.failing ∧ w'.store.getAccount p.account = .ok a := by
  constructor
  · intro h
    obtain ⟨r, v, hr, k⟩ := run_bind_eq_ok.1 h
    rw [run_outcome, run_lookupUser, Prod.mk.injEq, Except.ok.injEq] at hr
    obtain ⟨rfl, rfl⟩ := hr
    split at k
    · simp at k
    · simp at k
    · simp at k
    · next e he =>
      refine ⟨⟨e, he⟩, ?_⟩
      obtain ⟨q, u, hq, kn⟩ := run_bind_eq_ok.1 k
      split at kn
      · next p =>
        obtain ⟨hf, hg, rfl⟩ := run_read_eq_ok.1 (run_mapError_eq_ok.1 kn)
        rw [run_outcome, Prod.mk.injEq, Except.ok.injEq] at hq
        exact ⟨p, Prod.ext hq.1 hq.2, hf, hg⟩
      · simp at kn
      · simp at kn
  · intro found
    obtain ⟨⟨e, he⟩, p, hp, hf, hg⟩ := found
    have asked : ((lookupUser token).outcome : Act ApiError LookupReply).run w =
        (.ok (.ok (some e)), w.asked token) := by
      rw [run_outcome, run_lookupUser, he]
      rfl
    have made : ((provision token .trusted).outcome : Act ApiError _).run (w.asked token) =
        (.ok (.ok p), w') := by
      rw [run_outcome, hp]
    rw [resolveInDirectory, run_bind_of_ok asked]
    dsimp only
    rw [run_bind_of_ok made]
    exact run_mapError_eq_ok.2 (run_read_eq_ok.2 ⟨hf, hg, rfl⟩)

theorem run_resolveAccount :
    (resolveAccount settings caller token).run w =
      match ((lookupAccounts settings caller (Text.trim token)).run w).1 with
      | .error e => (.error e, w)
      | .ok m => match m.unique (Text.trim token) with
        | .ok a => (.ok a, w)
        | .error missing =>
          if settings.authType.usesDirectory && m.isEmpty && isValidUsername (Text.trim token) then
            (resolveInDirectory (Text.trim token) missing).run w
          else (.error missing, w) := by
  rw [resolveAccount, run_bind, (reads_lookupAccounts settings caller (Text.trim token)).run_eq w]
  cases ((lookupAccounts settings caller (Text.trim token)).run w).1 with
  | error e => rfl
  | ok m =>
    dsimp only
    cases m.unique (Text.trim token) with
    | ok a => rfl
    | error missing =>
      dsimp only
      split <;> rfl

/-- An account comes from the store, or from the directory when nothing in the store matches. -/
theorem resolveAccount_eq_ok (h : (resolveAccount settings caller token).run w = (.ok a, w')) :
    (w' = w ∧ ∃ m, (lookupAccounts settings caller (Text.trim token)).run w = (.ok m, w) ∧
        m.visible = [a]) ∨
      (settings.authType.usesDirectory = true ∧ isValidUsername (Text.trim token) = true ∧
        (lookupAccounts settings caller (Text.trim token)).run w = (.ok ⟨[], 0⟩, w) ∧
        ∃ missing, (resolveInDirectory (Text.trim token) missing).run w = (.ok a, w')) := by
  have reads := (reads_lookupAccounts settings caller (Text.trim token)).run_eq w
  rw [run_resolveAccount] at h
  split at h
  · simp at h
  · next m hm =>
    rw [hm] at reads
    split at h
    · next b hb =>
      cases h
      exact .inl ⟨rfl, m, reads, unique_eq_ok.1 hb⟩
    · next missing _ =>
      split at h
      · next hc =>
        simp only [Bool.and_eq_true] at hc
        obtain rfl := isEmpty_iff.1 hc.1.2
        exact .inr ⟨hc.1.1, hc.2, reads, missing, h⟩
      · simp at h

theorem no_candidates_of_lookup
    (h : (lookupAccounts settings caller token).run w = (.ok ⟨[], 0⟩, w')) :
    (candidates (Text.trim token)).run w = (.ok [], w) := by
  obtain ⟨-, b, -, hm⟩ | ⟨-, found, hc, hs⟩ := lookupAccounts_eq_ok h
  · simp at hm
  · have none : found.length = 0 := (splitVisible_eq_ok hs).2.symm
    rw [hc, List.eq_nil_of_length_eq_zero none]

/-- A username that finds nothing although an account has it is the number of no account. -/
theorem number_of_lookup (hv : isValidUsername (Text.trim token) = true)
    (h : (lookupAccounts settings caller (Text.trim token)).run w = (.ok ⟨[], 0⟩, w'))
    (hu : w.store.findByUsername (Text.trim token) = some a) :
    ∃ n, AccountId.parse? (Text.trim token) = some n ∧ ∀ b ∈ w.store.accounts, b.id ≠ n := by
  have nothing := no_candidates_of_lookup h
  rw [Text.trim_trim] at nothing
  obtain number | absent := no_candidates_of_username hv nothing
  · exact number
  · rw [hu] at absent
    simp at absent

theorem lookupAccounts_trim (settings : Settings) (caller : Caller) (token : String) :
    lookupAccounts settings caller (Text.trim token) = lookupAccounts settings caller token := by
  unfold lookupAccounts
  rw [Text.trim_trim]

theorem resolveAccount_trim (settings : Settings) (caller : Caller) (token : String) :
    resolveAccount settings caller (Text.trim token) = resolveAccount settings caller token := by
  unfold resolveAccount
  rw [Text.trim_trim]

/-- A name that finds nothing leads the directory to the account that has it. -/
theorem resolveAccount_of_named (readable : .getAccount ∉ w.failing ∧ .findByUsername ∉ w.failing)
    (numbered : w.store.Numbered) (uses : settings.authType.usesDirectory = true)
    (valid : isValidUsername (Text.trim token) = true)
    (lookup : (lookupAccounts settings caller token).run w = (.ok ⟨[], 0⟩, w))
    (entry : ∃ e, (w.directory.lookup (Text.trim token)).1 = .ok (some e))
    (again : ∃ e, ((w.asked (Text.trim token)).directory.lookup (Text.trim token)).1 =
      .ok (some e))
    (named : w.store.findByUsername (Text.trim token) = some a) :
    ∃ w', (resolveAccount settings caller token).run w = (.ok a, w') ∧ w.Provisions [] w' := by
  have asked := World.Provisions.asked w (Text.trim token)
  refine ⟨(w.asked (Text.trim token)).asked (Text.trim token), ?_,
    asked.trans (.asked (w.asked (Text.trim token)) (Text.trim token))⟩
  have made : (provision (Text.trim token) .trusted).run (w.asked (Text.trim token)) =
      (.ok ⟨a.id, false⟩, (w.asked (Text.trim token)).asked (Text.trim token)) := by
    obtain ⟨e, he⟩ := again
    rw [run_provision valid, he]
    exact accountOfEntry_of_existing (by simpa using readable.2) (by simpa using named)
  have known : w.store.getAccount a.id = .ok a :=
    numbered.getAccount_of_mem (Store.mem_of_findByUsername named).1
  have empty : (⟨[], 0⟩ : Matches).isEmpty = true := rfl
  rw [run_resolveAccount, lookupAccounts_trim, lookup]
  dsimp only [Matches.unique]
  rw [uses, empty, valid]
  exact resolveInDirectory_eq_ok.2
    ⟨entry, _, made, by simpa using readable.1, by simpa using known⟩

theorem provisions_of_resolveInDirectory {missing : ApiError} {r : Except ApiError Account}
    (h : (resolveInDirectory name missing).run w = (r, w')) :
    ∃ created, w.Provisions created w' := by
  rw [resolveInDirectory, run_bind, run_outcome, run_lookupUser] at h
  dsimp only at h
  split at h
  · cases h
    exact ⟨[], .asked w name⟩
  · cases h
    exact ⟨[], .asked w name⟩
  · cases h
    exact ⟨[], .asked w name⟩
  · rw [run_bind, run_outcome] at h
    dsimp only at h
    cases hp : (provision name .trusted).run (w.asked name) with
    | mk q v =>
      rw [show ({ w with directory := _ } : World) = w.asked name from rfl, hp] at h
      obtain ⟨created, hc⟩ := provisions_of_provision hp
      have gained := (World.Provisions.asked w name).trans hc
      split at h
      · have same := ((Reads.read _ _).mapError ApiError.ofStore).world_eq h
        exact ⟨created, same ▸ gained⟩
      · cases h
        exact ⟨created, gained⟩
      · cases h
        exact ⟨created, gained⟩

/-- Whatever comes of it, the world has only gained accounts from the directory. -/
theorem provisions_of_resolveAccount {r : Except ApiError Account}
    (h : (resolveAccount settings caller token).run w = (r, w')) :
    ∃ created, w.Provisions created w' := by
  rw [run_resolveAccount] at h
  split at h
  · cases h
    exact ⟨[], .refl w⟩
  · split at h
    · cases h
      exact ⟨[], .refl w⟩
    · split at h
      · exact provisions_of_resolveInDirectory h
      · cases h
        exact ⟨[], .refl w⟩

/-- A hidden account whose username is a number, but no account's id. The directory has an entry
for it both when it is asked about the name and when an account is to be made of it. -/
structure Exposed (settings : Settings) (caller : Caller) (token : String) (w : World)
    (a : Account) : Prop where
  usesDirectory : settings.authType.usesDirectory = true
  username : isValidUsername (Text.trim token) = true
  number : ∃ n, AccountId.parse? (Text.trim token) = some n ∧ ∀ b ∈ w.store.accounts, b.id ≠ n
  found : w.store.findByUsername (Text.trim token) = some a
  hidden : ¬Sees settings caller w a
  readable : .getAccount ∉ w.failing ∧ .findByUsername ∉ w.failing
  entry : ∃ e, (w.directory.lookup (Text.trim token)).1 = .ok (some e)
  again : ∃ e, ((w.asked (Text.trim token)).directory.lookup (Text.trim token)).1 = .ok (some e)

theorem parse?_self : AccountId.parse? "self" = none := by decide

theorem Exposed.run_lookupAccounts (h : Exposed settings caller token w a) :
    (lookupAccounts settings caller token).run w = (.ok ⟨[], 0⟩, w) := by
  obtain ⟨n, hn, unused⟩ := h.number
  have other : Text.trim token ≠ "self" := by
    intro self
    rw [self, parse?_self] at hn
    simp at hn
  have absent : w.store.accounts.find? (fun b => b.id = n) = none := by
    simpa [List.find?_eq_none] using unused
  have nothing : (candidates (Text.trim token)).run w = (.ok [], w) := by
    rw [candidates_of_username h.username, hn]
    dsimp only
    rw [accountsById, run_bind, run_findAccount, if_neg h.readable.1, absent]
    rfl
  rw [lookupAccounts, if_neg other, run_bind_of_ok nothing]
  rfl

theorem Exposed.run_resolveAccount (hs : w.store.Numbered)
    (h : Exposed settings caller token w a) :
    ∃ w', (resolveAccount settings caller token).run w = (.ok a, w') := by
  obtain ⟨w', resolved, -⟩ := resolveAccount_of_named h.readable hs h.usesDirectory h.username
    h.run_lookupAccounts h.entry h.again h.found
  exact ⟨w', resolved⟩

/-- The account that a token resolves to is made by this very call or may be seen, and may be
seen if it was there before. -/
def Hides (settings : Settings) (caller : Caller) (token : String) (w : World) : Prop :=
  ∀ a w', (resolveAccount settings caller token).run w = (.ok a, w') →
    ((∃ n, w.store.createAccount n = .ok (a, w'.store)) ∨ Sees settings caller w a) ∧
      (a ∈ w.store.accounts → Sees settings caller w a)

/-- A directory gives away hidden accounts exactly where one is exposed. -/
theorem hides_iff_not_exposed (hs : w.store.Reachable) :
    Hides settings caller token w ↔ ¬∃ a, Exposed settings caller token w a := by
  constructor
  · rintro hides ⟨a, ha⟩
    obtain ⟨w', hr⟩ := ha.run_resolveAccount hs.numbered
    exact ha.hidden ((hides a w' hr).2 (Store.mem_of_findByUsername ha.found).1)
  · intro covered a w' h
    obtain ⟨rfl, m, hm, hv⟩ | ⟨directory, username, lookup, missing, k⟩ := resolveAccount_eq_ok h
    · have sees := (sees_of_lookupAccounts hm a (by simp [hv])).1
      exact ⟨.inr sees, fun _ => sees⟩
    obtain ⟨entry, p, hp, hf, hg⟩ := resolveInDirectory_eq_ok.1 k
    obtain ⟨-, hn⟩ | ⟨e, he, kn⟩ := provision_cases hp
    · exact absurd rfl (hn p)
    obtain ⟨rfl, existing⟩ | ⟨-, created⟩ := accountOfEntry_cases kn
    · obtain ⟨b, hu, found, rfl⟩ := existing p rfl
      have number := number_of_lookup username lookup found
      have known := hs.numbered.getAccount_of_mem (Store.mem_of_findByUsername found).1
      rw [show w.store.getAccount b.id = .ok a from hg] at known
      cases known
      have sees : Sees settings caller w a := by
        by_contra hidden
        exact covered
          ⟨a, directory, username, number, found, hidden, ⟨hf, hu⟩, entry, ⟨e, he⟩⟩
      exact ⟨.inr sees, fun _ => sees⟩
    · obtain ⟨-, hn⟩ | ⟨b, s, -, hc, -, rfl, hb⟩ := createFromEntry_cases created
      · exact absurd rfl (hn p)
      cases hb
      have hw : w.store.createAccount _ = .ok (b, s) := hc
      have next : s.Numbered := (hs.write (.createAccount hw)).numbered
      have last : b ∈ s.accounts := by
        rw [(Store.createAccount_eq_ok hw).2.1]
        simp
      rw [show s.getAccount b.id = .ok b from next.getAccount_of_mem last] at hg
      cases hg
      refine ⟨.inl ⟨_, hw⟩, fun ha => ?_⟩
      exact absurd rfl ((Store.createAccount_fresh hs.numbered hw).1 a ha)

end

/-- Two accounts in lists, and a directory of one user whose name is a number. -/
def numericUsername : World where
  store := .memory ⟨[⟨⟨1000⟩, some "owner", none, none, true, 0⟩,
    ⟨⟨1001⟩, some "2000", some "Hidden", none, true, 0⟩], 1002, [], 1, []⟩
  failing := []
  directory := .listed [⟨⟨"2000", none, none⟩, none⟩]
  now := 0
  readOnly := false

theorem reachable_numericUsername : numericUsername.store.Reachable :=
  .write (.write .memory (.createAccount
      (show _ from rfl : Store.createAccount _ ⟨some "owner", none, none, true, 0⟩ = .ok (_, _))))
    (.createAccount
      (show _ from rfl : Store.createAccount _ ⟨some "2000", some "Hidden", none, true, 0⟩ = _))

theorem exposed_numericUsername :
    Exposed { Settings.default with authType := .ldap, accountVisibility := .none }
      (.user ⟨⟨1000⟩, some "owner", none, none, true, 0⟩) "2000" numericUsername
      ⟨⟨1001⟩, some "2000", some "Hidden", none, true, 0⟩ where
  usesDirectory := rfl
  username := by decide
  number := ⟨⟨2000⟩, by decide, by decide⟩
  found := by decide
  hidden := by
    have unseen : ((canSee { Settings.default with authType := .ldap, accountVisibility := .none }
        (.user ⟨⟨1000⟩, some "owner", none, none, true, 0⟩)
        ⟨⟨1001⟩, some "2000", some "Hidden", none, true, 0⟩).run numericUsername).1 = .ok false :=
      rfl
    rw [Sees, unseen]
    simp
  readable := by decide
  entry := ⟨⟨"2000", none, none⟩, rfl⟩
  again := ⟨⟨"2000", none, none⟩, rfl⟩

/-- The owner gets the hidden account of the number, which was there before. -/
theorem hidden_account_returned :
    numericUsername.store.Reachable ∧
      ¬Hides { Settings.default with authType := .ldap, accountVisibility := .none }
        (.user ⟨⟨1000⟩, some "owner", none, none, true, 0⟩) "2000" numericUsername := by
  refine ⟨reachable_numericUsername, fun hides => ?_⟩
  obtain ⟨w', hr⟩ := exposed_numericUsername.run_resolveAccount reachable_numericUsername.numbered
  exact exposed_numericUsername.hidden
    ((hides _ w' hr).2 (Store.mem_of_findByUsername exposed_numericUsername.found).1)

/-- The full name of the hidden account finds it, and the owner is told as if it found nothing. -/
theorem hides_named_account :
    (candidates "Hidden").run numericUsername =
        (.ok [⟨⟨1001⟩, some "2000", some "Hidden", none, true, 0⟩], numericUsername) ∧
      ((resolveAccount { Settings.default with authType := .ldap, accountVisibility := .none }
        (.user ⟨⟨1000⟩, some "owner", none, none, true, 0⟩) "Hidden").run numericUsername).1 =
        .error (.accountMissing "Hidden") ∧
      Hides { Settings.default with authType := .ldap, accountVisibility := .none }
        (.user ⟨⟨1000⟩, some "owner", none, none, true, 0⟩) "Hidden" numericUsername := by
  refine ⟨rfl, rfl, (hides_iff_not_exposed reachable_numericUsername).2 ?_⟩
  intro found
  obtain ⟨a, ha⟩ := found
  obtain ⟨n, hn, -⟩ := ha.number
  rw [show AccountId.parse? (Text.trim "Hidden") = none by decide] at hn
  simp at hn

end CodeReview
