import CodeReview.Proofs.Account.Resolution
import CodeReview.Proofs.Store.Growth
set_option autoImplicit false

/-!
What a lookup finds and shows, read off the store when no call fails. Looking for a token goes
through the accounts in their order and stops at the first kind of match that has one. So when the
store grows a match is only lost to an account that is new, and what was hidden may come to be
seen.
-/
namespace CodeReview
open Act

def firstOf (p : Account → Bool) (l : List Account) : List Account :=
  (l.find? p).toList

def allOf (p : Account → Bool) (l : List Account) : List Account :=
  l.filter p

def orElse (f g : List Account → List Account) (l : List Account) : List Account :=
  match f l with
  | [] => g l
  | found => found

/-- A search that, when the list grows at its end, finds no more of the old accounts than before
and loses one of them only for a new one. -/
structure Lasting (find : List Account → List Account) : Prop where
  sublist : ∀ l, (find l).Sublist l
  old : ∀ l more a, a ∈ find (l ++ more) → a ∈ l → a ∈ find l
  kept : ∀ l more a, a ∈ find l → a ∈ find (l ++ more) ∨ ∃ b ∈ more, b ∈ find (l ++ more)

namespace Lasting

theorem nothing : Lasting fun _ => [] :=
  ⟨fun l => List.nil_sublist l, by simp, by simp⟩

theorem allOf (p : Account → Bool) : Lasting (allOf p) where
  sublist l := List.filter_sublist
  old l more a ha hl := List.mem_filter.2 ⟨hl, (List.mem_filter.1 ha).2⟩
  kept l more a ha := by
    obtain ⟨hl, hp⟩ := List.mem_filter.1 ha
    exact .inl (List.mem_filter.2 ⟨List.mem_append_left _ hl, hp⟩)

theorem firstOf (p : Account → Bool) : Lasting (firstOf p) where
  sublist l := by
    unfold CodeReview.firstOf
    cases h : l.find? p with
    | none => exact List.nil_sublist l
    | some a => exact List.singleton_sublist.2 (List.mem_of_find?_eq_some h)
  old l more a ha hl := by
    unfold CodeReview.firstOf at ha ⊢
    rw [List.find?_append] at ha
    cases h : l.find? p with
    | some b => rwa [h] at ha
    | none =>
      rw [h, Option.none_or, Option.mem_toList] at ha
      exact absurd (List.find?_some ha) (List.find?_eq_none.1 h a hl)
  kept l more a ha := by
    left
    unfold CodeReview.firstOf at ha ⊢
    rw [Option.mem_toList] at ha ⊢
    rw [List.find?_append, Option.mem_def.1 ha, Option.some_or]

variable {f g : List Account → List Account}

theorem new_of_nil (hf : Lasting f) {l more : List Account} (none : f l = []) {b : Account}
    (hb : b ∈ f (l ++ more)) : b ∈ more := by
  rcases List.mem_append.1 ((hf.sublist _).subset hb) with hl | hm
  · have old := hf.old l more b hb hl
    rw [none] at old
    cases old
  · exact hm

/-- The second search only counts where the first one finds nothing, and that can change only by
a new account. -/
theorem orElse (hf : Lasting f) (hg : Lasting g) : Lasting (orElse f g) where
  sublist l := by
    unfold CodeReview.orElse
    split
    · exact hg.sublist l
    · exact hf.sublist l
  old l more a ha hl := by
    unfold CodeReview.orElse at ha ⊢
    split at ha
    · next none =>
      have before : f l = [] := by
        refine List.eq_nil_iff_forall_not_mem.2 fun b hb => ?_
        rcases hf.kept l more b hb with hb | ⟨c, -, hc⟩
        · rw [none] at hb
          cases hb
        · rw [none] at hc
          cases hc
      rw [before]
      exact hg.old l more a ha hl
    · have found := hf.old l more a ha hl
      split
      · next none =>
        rw [none] at found
        cases found
      · exact found
  kept l more a ha := by
    unfold CodeReview.orElse at ha ⊢
    split at ha
    · next none =>
      split
      · exact hg.kept l more a ha
      · next some =>
        obtain ⟨b, hb⟩ := List.exists_mem_of_ne_nil _ some
        exact .inr ⟨b, hf.new_of_nil none hb, hb⟩
    · have found := hf.kept l more a ha
      split
      · next none =>
        rw [none] at found
        simp at found
      · exact found

end Lasting

/-- How a store compares mail addresses. -/
def Store.sameMail : Store → String → String → Bool
  | .memory _ => Text.sameFolded
  | .tables _ => sameEmail

theorem Store.findByEmail_eq (s : Store) (email : String) :
    s.findByEmail email = s.accounts.filter fun a => a.preferredEmail.any fun e =>
      s.sameMail e email := by
  cases s <;> rfl

theorem Store.findByFullName_eq (s : Store) (name : String) :
    s.findByFullName name = s.accounts.filter fun a => a.fullName = some name := by
  cases s <;> rfl

section
variable (sameMail : String → String → Bool) (token : String)

def searchMail : List Account → List Account :=
  allOf fun a => a.preferredEmail.any fun e => sameMail e token

def searchFullName : List Account → List Account :=
  allOf fun a => a.fullName = some token

def searchName : List Account → List Account :=
  orElse (firstOf fun a => a.username = some token)
    (if '@' ∈ token.toList then orElse (searchMail sameMail token) (searchFullName token)
      else searchFullName token)

/-- The search for a token, without blanks around it. -/
def search : List Account → List Account :=
  if token = "" then fun _ => []
  else match AccountId.parse? token with
    | some id => firstOf fun a => a.id = id
    | none =>
      match bracketed '<' '>' token.toList with
      | some email => searchMail sameMail (String.ofList email)
      | none =>
        match bracketedId token with
        | some id => firstOf fun a => a.id = id
        | none => searchName sameMail token

theorem lasting_searchName : Lasting (searchName sameMail token) := by
  refine (Lasting.firstOf _).orElse ?_
  split
  · exact (Lasting.allOf _).orElse (Lasting.allOf _)
  · exact Lasting.allOf _

theorem lasting_search : Lasting (search sameMail token) := by
  unfold search
  split
  · exact Lasting.nothing
  · split
    · exact Lasting.firstOf _
    · split
      · exact Lasting.allOf _
      · split
        · exact Lasting.firstOf _
        · exact lasting_searchName sameMail token

end

def Store.matching (s : Store) (token : String) : List Account :=
  search s.sameMail token s.accounts

section
variable {w : World}

theorem run_read_of_works {α : Type} (hf : w.failing = []) (call : StoreCall)
    (f : Store → Except StoreError α) : (Act.read call f).run w = (f w.store, w) := by
  rw [run_read, hf, if_neg List.not_mem_nil]

theorem run_mapError_read {α : Type} (hf : w.failing = []) (call : StoreCall) (f : Store → α) :
    ((Act.read call fun s => .ok (f s)).mapError ApiError.ofStore).run w =
      (.ok (f w.store), w) := by
  rw [run_mapError, run_read_of_works hf]
  rfl

theorem run_findAccount_of_works (hf : w.failing = []) (id : AccountId) :
    (findAccount id).run w = (.ok (w.store.accounts.find? fun a => a.id = id), w) := by
  rw [run_findAccount, hf, if_neg List.not_mem_nil]

theorem run_accountsById (hf : w.failing = []) (id : AccountId) :
    (accountsById id).run w = (.ok (firstOf (fun a => a.id = id) w.store.accounts), w) := by
  rw [accountsById, run_bind_of_ok (run_findAccount_of_works hf id)]
  rfl

theorem run_accountsByEmail (hf : w.failing = []) (email : String) :
    ((Act.findByEmail email).mapError ApiError.ofStore).run w =
      (.ok (searchMail w.store.sameMail email w.store.accounts), w) := by
  rw [Act.findByEmail, run_mapError_read hf, Store.findByEmail_eq]
  rfl

theorem run_accountsByFullName (hf : w.failing = []) (name : String) :
    ((Act.findByFullName name).mapError ApiError.ofStore).run w =
      (.ok (searchFullName name w.store.accounts), w) := by
  rw [Act.findByFullName, run_mapError_read hf, Store.findByFullName_eq]
  rfl

theorem run_accountsByName (hf : w.failing = []) (token : String) :
    (accountsByName token).run w =
      (.ok (searchName w.store.sameMail token w.store.accounts), w) := by
  have byUsername := run_mapError_read hf .findByUsername fun s => s.findByUsername token
  rw [accountsByName, Act.findByUsername, run_bind_of_ok byUsername, Store.findByUsername_eq,
    searchName, orElse, firstOf]
  cases w.store.accounts.find? fun a => a.username = some token with
  | some a => rfl
  | none =>
    dsimp only [Option.toList_none]
    split
    · rw [run_bind_of_ok (run_accountsByEmail hf token), orElse]
      cases searchMail w.store.sameMail token w.store.accounts with
      | nil => exact run_accountsByFullName hf token
      | cons a as => rfl
    · exact run_accountsByFullName hf token

theorem run_candidates (hf : w.failing = []) (token : String) :
    (candidates token).run w = (.ok (w.store.matching token), w) := by
  by_cases blank : token = ""
  · rw [candidates, Store.matching, search, if_pos blank, if_pos blank]
    rfl
  · rw [candidates, Store.matching, search, if_neg blank, if_neg blank]
    cases AccountId.parse? token with
    | some id => exact run_accountsById hf id
    | none =>
      cases bracketed '<' '>' token.toList with
      | some email => exact run_accountsByEmail hf (String.ofList email)
      | none =>
        cases bracketedId token with
        | some id => exact run_accountsById hf id
        | none => exact run_accountsByName hf token

end

namespace Store

def administers (s : Store) (adminGroup : String) (viewer : AccountId) : Bool :=
  (s.findGroupByName adminGroup).any fun g => g.hasMember viewer

def shows (s : Store) (settings : Settings) (caller : Caller) (a : Account) : Bool :=
  match caller.accountId? with
  | none => settings.accountVisibility = .all
  | some viewer =>
    viewer = a.id || settings.accountVisibility = .all ||
      s.administers settings.adminGroup viewer ||
      (settings.accountVisibility = .sameGroup &&
        (s.groupsContaining viewer).any fun g => (s.groupsContaining a.id).contains g)

theorem administers_of_widens {s t : Store} {widen : Group → Group}
    (widens : ∀ g : Group, g.Widens (widen g)) (groups : t.groups = s.groups.map widen)
    {adminGroup : String} {viewer : AccountId} (h : s.administers adminGroup viewer = true) :
    t.administers adminGroup viewer = true := by
  unfold Store.administers at h ⊢
  rw [findGroupByName_eq] at h ⊢
  obtain ⟨g, found, member⟩ := (Option.any_eq_true _ _).1 h
  have names : (fun g : Group => decide (g.name = adminGroup)) ∘ widen =
      fun g => decide (g.name = adminGroup) :=
    funext fun g => by rw [Function.comp_apply, (widens g).name]
  rw [groups, List.find?_map, names, found]
  exact (widens g).members viewer member

/-- Whoever is seen is still seen when groups have gained members. -/
theorem shows_of_widens {s t : Store} {widen : Group → Group} (hs : s.Tidy) (ht : t.Tidy)
    (widens : ∀ g : Group, g.Widens (widen g)) (groups : t.groups = s.groups.map widen)
    {settings : Settings} {caller : Caller} {a : Account}
    (h : s.shows settings caller a = true) : t.shows settings caller a = true := by
  have containing : ∀ id u, u ∈ s.groupsContaining id → u ∈ t.groupsContaining id := by
    intro id u hu
    obtain ⟨g, hg, rfl, member⟩ := (mem_groupsContaining hs).1 hu
    refine (mem_groupsContaining ht).2 ⟨widen g, ?_, (widens g).uuid, (widens g).members id member⟩
    rw [groups]
    exact List.mem_map_of_mem hg
  unfold shows at h ⊢
  cases viewer : caller.accountId? with
  | none => simpa only [viewer] using h
  | some id =>
    simp only [viewer, Bool.or_eq_true, Bool.and_eq_true, List.any_eq_true,
      List.contains_iff_mem] at h ⊢
    rcases h with (plain | admin) | ⟨visibility, u, mine, theirs⟩
    · exact .inl (.inl plain)
    · exact .inl (.inr (administers_of_widens widens groups admin))
    · exact .inr ⟨visibility, u, containing id u mine, containing a.id u theirs⟩

theorem shows_of_groups {s t : Store} (hs : s.Tidy) (ht : t.Tidy) (groups : t.groups = s.groups)
    (settings : Settings) (caller : Caller) (a : Account) :
    t.shows settings caller a = s.shows settings caller a := by
  refine Bool.eq_iff_iff.2 ⟨fun h => ?_, fun h => ?_⟩
  · exact shows_of_widens ht hs .refl (by simp [groups]) h
  · exact shows_of_widens hs ht .refl (by simp [groups]) h

end Store

section
variable {settings : Settings} {caller : Caller} {w : World}

theorem run_isAdministrator (hf : w.failing = []) (adminGroup : String) (viewer : AccountId) :
    ((isAdministrator adminGroup viewer).mapError ApiError.ofStore).run w =
      (.ok (w.store.administers adminGroup viewer), w) := by
  rw [run_mapError, isAdministrator, run_bind, Act.findGroupByName, run_read_of_works hf]
  rfl

theorem run_canSee (hf : w.failing = []) (a : Account) :
    (canSee settings caller a).run w = (.ok (w.store.shows settings caller a), w) := by
  unfold canSee Store.shows
  cases caller.accountId? with
  | none => rfl
  | some viewer =>
    dsimp only
    split
    · next all => rcases all with self | all <;> simp [*]
    · next other =>
      rw [not_or] at other
      rw [run_bind_of_ok (run_isAdministrator hf settings.adminGroup viewer)]
      cases w.store.administers settings.adminGroup viewer with
      | true => simp
      | false =>
        cases visibility : settings.accountVisibility with
        | all => exact absurd visibility other.2
        | none => simp [other.1]
        | sameGroup =>
          have mine := run_mapError_read hf .groupsContaining fun s => s.groupsContaining viewer
          have theirs := run_mapError_read hf .groupsContaining fun s => s.groupsContaining a.id
          simp only [Bool.false_eq_true, if_false]
          rw [Act.groupsContaining, Act.groupsContaining, run_bind_of_ok mine,
            run_bind_of_ok theirs]
          simp [other.1]

theorem sees_iff (hf : w.failing = []) (a : Account) :
    Sees settings caller w a ↔ w.store.shows settings caller a = true := by
  rw [Sees, run_canSee hf, Except.ok.injEq]

theorem run_splitVisible (hf : w.failing = []) (found : List Account) :
    (splitVisible settings caller found).run w =
      (.ok ⟨found.filter (w.store.shows settings caller),
        found.countP fun a => !w.store.shows settings caller a⟩, w) := by
  induction found with
  | nil => rfl
  | cons a rest ih =>
    rw [splitVisible, run_bind_of_ok (run_canSee hf a), run_bind_of_ok ih]
    cases seen : w.store.shows settings caller a <;> simp [seen]

/-- The matches of a token are those of the store, seen or hidden. -/
theorem run_lookupAccounts (hf : w.failing = []) {token : String}
    (other : Text.trim token ≠ "self") :
    (lookupAccounts settings caller token).run w =
      (.ok ⟨(w.store.matching (Text.trim token)).filter (w.store.shows settings caller),
        (w.store.matching (Text.trim token)).countP fun a => !w.store.shows settings caller a⟩,
        w) := by
  rw [lookupAccounts, if_neg other, run_bind_of_ok (run_candidates hf _), run_splitVisible hf]

end

end CodeReview
