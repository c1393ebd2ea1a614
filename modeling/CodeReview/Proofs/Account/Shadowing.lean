import CodeReview.Proofs.Account.Repeated
import CodeReview.Proofs.Store.Distinct
set_option autoImplicit false

/-!
How far hidden accounts can be told from missing ones. A lookup stops at the first kind of match
that any account has, and only then leaves out what the caller may not see. So a hidden account
can shadow one that the caller sees and that answers to the same token by a later kind. Nothing
else about hidden accounts shows.
-/
namespace CodeReview
open Act

/-- No two accounts share an id or a username. -/
def Apart (l : List Account) : Prop :=
  l.Pairwise fun a b => a.id ≠ b.id ∧ (a.username = none ∨ a.username ≠ b.username)

theorem Store.Reachable.apart {s : Store} (h : s.Reachable) : Apart s.accounts :=
  List.pairwise_and_iff.2 ⟨h.numbered.distinct, h.distinct.usernames⟩

/-- The account answers to a token, whichever way the token names it. -/
def Account.answersTo (sameMail : String → String → Bool) (token : String) (a : Account) : Bool :=
  if token = "" then false
  else match AccountId.parse? token with
    | some id => a.id = id
    | none =>
      match bracketed '<' '>' token.toList with
      | some email => a.preferredEmail.any fun e => sameMail e (String.ofList email)
      | none =>
        match bracketedId token with
        | some id => a.id = id
        | none =>
          a.username = some token ||
            ((if '@' ∈ token.toList then a.preferredEmail.any fun e => sameMail e token
              else false) || a.fullName = some token)

/-- A search that finds something wherever an account answers, in any order of the accounts. What
it finds of a part of them is what it finds there without the others, unless all it finds are
others. -/
structure Looking (answers : Account → Bool) (find : List Account → List Account) : Prop where
  nil : ∀ l, find l = [] ↔ ∀ a ∈ l, answers a = false
  perm : ∀ l k, Apart l → Apart k → l.Perm k → (find l).Perm (find k)
  part : ∀ l p, Apart l → (find l).filter p = find (l.filter p) ∨ (find l).filter p = []

theorem firstOf_eq_allOf {p : Account → Bool} {l : List Account}
    (once : l.Pairwise fun a b => ¬(p a = true ∧ p b = true)) : firstOf p l = allOf p l := by
  induction l with
  | nil => rfl
  | cons a l ih =>
    obtain ⟨others, rest⟩ := List.pairwise_cons.1 once
    unfold firstOf allOf at ih ⊢
    by_cases here : p a = true
    · have none : l.filter p = [] := List.filter_eq_nil_iff.2 fun b hb hp => others b hb ⟨here, hp⟩
      rw [List.find?_cons_of_pos here, List.filter_cons_of_pos here, none]
      rfl
    · rw [List.find?_cons_of_neg here, List.filter_cons_of_neg here, ih rest]

namespace Looking

theorem nothing : Looking (fun _ => false) fun _ => [] :=
  ⟨by simp, fun _ _ _ _ _ => .nil, fun _ _ _ => .inl rfl⟩

theorem allOf (p : Account → Bool) : Looking p (allOf p) where
  nil l := by simp [CodeReview.allOf]
  perm l k _ _ same := same.filter p
  part l q _ := .inl (by
    unfold CodeReview.allOf
    rw [List.filter_filter, List.filter_filter]
    exact List.filter_congr fun a _ => Bool.and_comm _ _)

/-- Looking for the first account is looking for all where no two can be meant. -/
theorem firstOf {p : Account → Bool}
    (once : ∀ l, Apart l → l.Pairwise fun a b => ¬(p a = true ∧ p b = true)) :
    Looking p (firstOf p) where
  nil l := by simp [CodeReview.firstOf]
  perm l k hl hk same := by
    rw [firstOf_eq_allOf (once l hl), firstOf_eq_allOf (once k hk)]
    exact (allOf p).perm l k hl hk same
  part l q hl := by
    rw [firstOf_eq_allOf (once l hl), firstOf_eq_allOf (once _ (hl.filter q))]
    exact (allOf p).part l q hl

variable {p q : Account → Bool} {f g : List Account → List Account}

theorem orElse (hf : Looking p f) (hg : Looking q g) :
    Looking (fun a => p a || q a) (orElse f g) where
  nil l := by
    have both : (∀ a ∈ l, (p a || q a) = false) ↔ f l = [] ∧ g l = [] := by
      simp only [Bool.or_eq_false_iff, forall_and, hf.nil l, hg.nil l]
    rw [both]
    unfold CodeReview.orElse
    split
    · next none => simp [none]
    · next some => exact ⟨fun none => absurd none some, fun none => absurd none.1 some⟩
  perm l k hl hk same := by
    have first := hf.perm l k hl hk same
    unfold CodeReview.orElse
    split
    · next none =>
      rw [none] at first
      rw [first.nil_eq.symm]
      exact hg.perm l k hl hk same
    · next some =>
      split
      · next none =>
        rw [none] at first
        exact absurd first.eq_nil some
      · exact first
  part l r hl := by
    unfold CodeReview.orElse
    split
    · next none =>
      -- Where nobody answers the first way, nobody does among fewer accounts.
      have fewer : f (l.filter r) = [] :=
        (hf.nil _).2 fun a ha => (hf.nil l).1 none a (List.mem_of_mem_filter ha)
      rw [fewer]
      exact hg.part l r hl
    · rcases hf.part l r hl with same | gone
      · split
        · next none => exact .inr (same.trans none)
        · exact .inl same
      · exact .inr gone

end Looking

section
variable (sameMail : String → String → Bool) (token : String)

theorem looking_id (id : AccountId) : Looking (fun a => a.id = id) (firstOf fun a => a.id = id) :=
  .firstOf fun _ apart => apart.imp fun ne both =>
    ne.1 ((of_decide_eq_true both.1).trans (of_decide_eq_true both.2).symm)

theorem looking_username :
    Looking (fun a => a.username = some token) (firstOf fun a => a.username = some token) := by
  refine .firstOf fun _ apart => apart.imp fun ne both => ?_
  have left := of_decide_eq_true both.1
  have right := of_decide_eq_true both.2
  rcases ne.2 with unnamed | other
  · rw [left] at unnamed
    cases unnamed
  · exact other (left.trans right.symm)

theorem looking_search : Looking (Account.answersTo sameMail token) (search sameMail token) := by
  unfold Account.answersTo search
  by_cases blank : token = ""
  · simp only [if_pos blank]
    exact .nothing
  simp only [if_neg blank]
  cases AccountId.parse? token with
  | some id => exact looking_id id
  | none =>
    cases bracketed '<' '>' token.toList with
    | some email => exact .allOf _
    | none =>
      cases bracketedId token with
      | some id => exact looking_id id
      | none =>
        refine (looking_username token).orElse ?_
        by_cases mail : '@' ∈ token.toList
        · simp only [if_pos mail]
          exact (Looking.allOf _).orElse (.allOf _)
        · simp only [if_neg mail, Bool.false_or]
          exact .allOf _

end

theorem unique_of_perm {m n : Matches} (same : m.visible.Perm n.visible) (token : String) :
    m.unique token = n.unique token := by
  unfold Matches.unique
  match m.visible, n.visible, same with
  | [], [], _ => rfl
  | [a], [b], same =>
    obtain rfl := List.singleton_perm_singleton.1 same
    rfl
  | _ :: _ :: _, _ :: _ :: _, _ => rfl
  | [], _ :: _, same => exact absurd same.length_eq (by simp)
  | _ :: _, [], same => exact absurd same.length_eq (by simp)
  | [_], _ :: _ :: _, same => exact absurd same.length_eq (by simp)
  | _ :: _ :: _, [_], same => exact absurd same.length_eq (by simp)

theorem accountAmbiguous_ne_accountMissing (token : String) :
    ApiError.accountAmbiguous token ≠ .accountMissing token := by
  intro same
  have texts := (String.append_right_inj _).1 (congrArg ApiError.message same)
  exact absurd texts (by decide)

theorem unique_eq_missing {m : Matches} {token : String} :
    m.unique token = .error (.accountMissing token) ↔ m.visible = [] := by
  unfold Matches.unique
  split
  · next none => simp [none]
  · next one => simp [one]
  · next more _ =>
    simp only [Except.error.injEq]
    exact ⟨fun same => absurd same (accountAmbiguous_ne_accountMissing token),
      fun none => absurd none more⟩

/-- Matches among the same accounts, each of them kept or lost as a whole, are told alike exactly
when both are kept or both are lost. -/
theorem unique_eq_iff_lost {shown shown' found found' : List Account} {hidden hidden' : Nat}
    {token : String} (left : shown = found ∨ shown = []) (right : shown' = found' ∨ shown' = [])
    (same : found.Perm found') :
    Matches.unique ⟨shown, hidden⟩ token = Matches.unique ⟨shown', hidden'⟩ token ↔
      (shown = [] ∧ found ≠ [] ↔ shown' = [] ∧ found' ≠ []) := by
  by_cases nothing : found = []
  · obtain rfl : found' = [] := (nothing ▸ same).nil_eq.symm
    obtain rfl : shown' = [] := right.elim id id
    obtain rfl : shown = [] := left.elim (·.trans nothing) id
    simp [nothing, Matches.unique]
  have some : found' ≠ [] := fun none => nothing (none ▸ same).eq_nil
  rcases left with rfl | rfl <;> rcases right with rfl | rfl
  · simp [nothing, some, unique_of_perm (m := ⟨shown, hidden⟩) (n := ⟨shown', hidden'⟩) same]
  · have missing : Matches.unique ⟨[], hidden'⟩ token = .error (.accountMissing token) := rfl
    rw [missing, unique_eq_missing]
    simp [nothing, some]
  · have missing : Matches.unique ⟨[], hidden⟩ token = .error (.accountMissing token) := rfl
    rw [missing, eq_comm, unique_eq_missing]
    simp [nothing, some]
  · simp [nothing, some, Matches.unique]

section
variable {settings : Settings} {caller : Caller} {token : String} {w v : World}

/-- The lookup shows no account, although one that the caller sees answers to the token. -/
def Shadowed (settings : Settings) (caller : Caller) (token : String) (w : World) : Prop :=
  (∃ m, (lookupAccounts settings caller token).run w = (.ok m, w) ∧ m.visible = []) ∧
    ∃ a ∈ w.store.accounts, Sees settings caller w a ∧
      a.answersTo w.store.sameMail (Text.trim token) = true

/-- Two stores of one kind that differ only in accounts that the caller does not see. -/
structure LooksAlike (settings : Settings) (caller : Caller) (w v : World) : Prop where
  kind : v.store.inLists = w.store.inLists
  accounts : ∀ a, a ∈ v.store.accounts ∧ Sees settings caller v a ↔
    a ∈ w.store.accounts ∧ Sees settings caller w a

/-- The accounts of a store that the caller sees. -/
def Store.seen (s : Store) (settings : Settings) (caller : Caller) : List Account :=
  s.accounts.filter (s.shows settings caller)

def Store.shown (s : Store) (settings : Settings) (caller : Caller) (token : String) :
    List Account :=
  (s.matching (Text.trim token)).filter (s.shows settings caller)

theorem run_parseAccount (settings : Settings) (caller : Caller) (hf : w.failing = [])
    (other : Text.trim token ≠ "self") :
    (parseAccount settings caller token).run w =
      (Matches.unique ⟨w.store.shown settings caller token, (w.store.matching
        (Text.trim token)).countP fun a => !w.store.shows settings caller a⟩ token, w) := by
  rw [parseAccount, run_bind_of_ok (run_lookupAccounts hf other), run_ofExcept, Store.shown]

/-- What is shown is what would be found if there were no other accounts, or nothing. -/
theorem Store.Reachable.shown_cases {s : Store} (hs : s.Reachable) (settings : Settings)
    (caller : Caller) (token : String) :
    s.shown settings caller token =
        search s.sameMail (Text.trim token) (s.seen settings caller) ∨
      s.shown settings caller token = [] :=
  (looking_search s.sameMail (Text.trim token)).part s.accounts _ hs.apart

theorem shadowed_iff (hf : w.failing = []) (other : Text.trim token ≠ "self") :
    Shadowed settings caller token w ↔ w.store.shown settings caller token = [] ∧
      search w.store.sameMail (Text.trim token) (w.store.seen settings caller) ≠ [] := by
  have answered : search w.store.sameMail (Text.trim token) (w.store.seen settings caller) ≠ [] ↔
      ∃ a ∈ w.store.accounts, Sees settings caller w a ∧
        a.answersTo w.store.sameMail (Text.trim token) = true := by
    rw [Ne, (looking_search w.store.sameMail (Text.trim token)).nil]
    simp only [Store.seen, List.mem_filter, sees_iff hf, not_forall, Bool.not_eq_false, exists_prop,
      and_assoc]
  rw [Shadowed, answered, run_lookupAccounts hf other]
  simp only [Prod.mk.injEq, Except.ok.injEq, and_true, exists_eq_left', Store.shown]

theorem not_shadowed_self (self : Text.trim token = "self") :
    ¬Shadowed settings caller token w := by
  rintro ⟨⟨m, looked, none⟩, -⟩
  obtain ⟨-, a, -, rfl⟩ | ⟨other, -⟩ := lookupAccounts_eq_ok looked
  · cases none
  · exact other self

theorem LooksAlike.seen (alike : LooksAlike settings caller w v) (fw : w.failing = [])
    (fv : v.failing = []) (hw : w.store.Numbered) (hv : v.store.Numbered) :
    (w.store.seen settings caller).Perm (v.store.seen settings caller) := by
  refine (List.perm_ext_iff_of_nodup (hw.nodup.filter _) (hv.nodup.filter _)).2 fun a => ?_
  simpa only [Store.seen, List.mem_filter, sees_iff fw, sees_iff fv] using (alike.accounts a).symm

/-- Stores that look alike to the caller lead a token to the same result exactly when it is
shadowed in both of them or in neither. -/
theorem parseAccount_alike_iff (hw : w.store.Reachable) (hv : v.store.Reachable)
    (fw : w.failing = []) (fv : v.failing = []) (alike : LooksAlike settings caller w v) :
    ((parseAccount settings caller token).run w).1 =
        ((parseAccount settings caller token).run v).1 ↔
      (Shadowed settings caller token w ↔ Shadowed settings caller token v) := by
  by_cases other : Text.trim token = "self"
  · have same : ((parseAccount settings caller token).run w).1 =
        ((parseAccount settings caller token).run v).1 := by
      unfold parseAccount lookupAccounts
      dsimp only
      rw [if_pos other]
      cases caller <;> rfl
    simp only [same, not_shadowed_self other]
  rw [run_parseAccount settings caller fw other, run_parseAccount settings caller fv other,
    shadowed_iff fw other, shadowed_iff fv other, Store.sameMail_of_inLists alike.kind]
  have seen : (search w.store.sameMail (Text.trim token) (w.store.seen settings caller)).Perm
      (search w.store.sameMail (Text.trim token) (v.store.seen settings caller)) :=
    (looking_search _ _).perm _ _ (hw.apart.filter _) (hv.apart.filter _)
      (alike.seen fw fv hw.numbered hv.numbered)
  have shownW := hw.shown_cases settings caller token
  have shownV := hv.shown_cases settings caller token
  rw [Store.sameMail_of_inLists alike.kind] at shownV
  dsimp only
  exact unique_eq_iff_lost shownW shownV seen

end

/-- An account without username, and another one that has the name of the first as username. -/
def ann : Account :=
  ⟨⟨1000⟩, none, some "Ann", none, true, 0⟩

def namesake : Account :=
  ⟨⟨1001⟩, some "Ann", none, none, true, 0⟩

def annAlone : World where
  store := .memory ⟨[ann], 1001, [], 1, []⟩
  failing := []
  directory := .listed []
  now := 0
  readOnly := false

def annAndNamesake : World :=
  { annAlone with store := .memory ⟨[ann, namesake], 1002, [], 1, []⟩ }

theorem reachable_annAlone : annAlone.store.Reachable :=
  .write .memory (.createAccount
    (show _ from rfl : Store.createAccount _ ⟨none, some "Ann", none, true, 0⟩ = .ok (_, _)))

theorem reachable_annAndNamesake : annAndNamesake.store.Reachable :=
  reachable_annAlone.write (.createAccount
    (show _ from rfl : Store.createAccount _ ⟨some "Ann", none, none, true, 0⟩ = .ok (_, _)))

/-- Where accounts are hidden from each other the first account does not see its namesake. -/
def unseen : Settings :=
  { Settings.default with accountVisibility := .none }

theorem namesake_unseen : ¬Sees unseen (.user ann) annAndNamesake namesake := by
  unfold Sees
  decide

theorem looksAlike_namesake : LooksAlike unseen (.user ann) annAlone annAndNamesake where
  kind := rfl
  accounts a := by
    constructor
    · rintro ⟨there, seen⟩
      rcases List.mem_cons.1 there with rfl | there
      · exact ⟨List.mem_singleton_self ann, sees_self unseen annAlone ann⟩
      · obtain rfl := List.mem_singleton.1 there
        exact absurd seen namesake_unseen
    · rintro ⟨there, -⟩
      obtain rfl := List.mem_singleton.1 there
      exact ⟨List.mem_cons_self, sees_self unseen annAndNamesake ann⟩

/-- Her own full name leads the first account to herself, until somebody she does not see takes it
as username. -/
theorem hidden_username_shadows :
    annAlone.store.Reachable ∧ annAndNamesake.store.Reachable ∧
      LooksAlike unseen (.user ann) annAlone annAndNamesake ∧
      ((parseAccount unseen (.user ann) "Ann").run annAlone).1 = .ok ann ∧
      ((parseAccount unseen (.user ann) "Ann").run annAndNamesake).1 =
        .error (.accountMissing "Ann") :=
  ⟨reachable_annAlone, reachable_annAndNamesake, looksAlike_namesake, by decide, by decide⟩

/-- The number of the hidden account tells nothing. -/
theorem hidden_number_missing :
    ((parseAccount unseen (.user ann) "1001").run annAlone).1 =
      ((parseAccount unseen (.user ann) "1001").run annAndNamesake).1 := by
  refine (parseAccount_alike_iff reachable_annAlone reachable_annAndNamesake rfl rfl
    looksAlike_namesake).2 (iff_of_false ?_ ?_)
  · rintro ⟨-, a, there, -, answers⟩
    obtain rfl := List.mem_singleton.1 there
    revert answers
    decide
  · rintro ⟨-, a, there, seen, answers⟩
    rcases List.mem_cons.1 there with rfl | there
    · revert answers
      decide
    · obtain rfl := List.mem_singleton.1 there
      exact namesake_unseen seen

end CodeReview
