import CodeReview.Proofs.Account.Admission
import CodeReview.Proofs.Account.Shadowing
import CodeReview.Proofs.Store.Keys
import CodeReview.Proofs.Text.Numeral
import CodeReview.Proofs.Text.Query
set_option autoImplicit false

/-!
The tokens that name an account. The number of an account names it, alone or in parentheses after
any text, and so does its mail address in angle brackets. A username names the account that has
it, except where an earlier kind of token takes the name for itself.
-/
namespace CodeReview
open Act Text.Numeral

/-- After the last opening bracket any text may stand that has no further one. -/
theorem bracketed_append {opening closing : Char} {before inner : List Char}
    (plain : opening ∉ inner) :
    bracketed opening closing (before ++ opening :: (inner ++ [closing])) =
      some (Text.trimChars inner) := by
  have back : (before ++ opening :: (inner ++ [closing])).reverse =
      closing :: (inner.reverse ++ opening :: before.reverse) := by simp
  have taken : (inner.reverse ++ opening :: before.reverse).takeWhile (· ≠ opening) =
      inner.reverse := by
    have differs := Text.differs_of_not_mem fun there => plain (List.mem_reverse.1 there)
    rw [List.takeWhile_append_of_pos differs, List.takeWhile_cons_of_neg (by simp),
      List.append_nil]
  rw [bracketed, back]
  dsimp only
  rw [if_pos ⟨rfl, by simp⟩, taken, List.reverse_reverse]

/-- A text that ends in a bracket, with the bracket taken off. -/
theorem concat_of_ends {token : String} {cs inner : List Char} {c d : Char}
    (written : token.toList = cs ++ c :: (inner ++ [d])) :
    token.toList = (cs ++ c :: inner) ++ [d] := by
  rw [written, List.append_assoc, List.cons_append]

theorem ne_empty_of_concat {token : String} {cs : List Char} {c : Char}
    (ends : token.toList = cs ++ [c]) : token ≠ "" := by
  rintro rfl
  exact List.append_ne_nil_of_right_ne_nil cs (List.cons_ne_nil c []) ends.symm

theorem AccountId.parse?_of_last {s : String} {cs : List Char} {c : Char}
    (written : s.toList = cs ++ [c]) (other : ∀ d < 10, c ≠ Nat.digitChar d) :
    parse? s = none := by
  rw [Option.eq_none_iff_forall_ne_some]
  intro id number
  obtain ⟨d, small, last⟩ := (AccountId.parse?_eq_some_iff.1 number).last_digit
  rw [written, List.getLast?_concat] at last
  exact other d small (Option.some.inj last)

section
variable {sameMail : String → String → Bool} {token : String}

theorem search_of_number {id : AccountId} (number : AccountId.parse? token = some id) :
    search sameMail token = firstOf fun a => a.id = id := by
  have some : token ≠ "" := by
    rintro rfl
    cases number
  rw [search, if_neg some, number]

/-- A text that is closed by an angle bracket is a mail address. -/
theorem search_of_mail {before mail : List Char}
    (written : token.toList = before ++ '<' :: (mail ++ ['>'])) (plain : '<' ∉ mail) :
    search sameMail token = searchMail sameMail (String.ofList (Text.trimChars mail)) := by
  have ends := concat_of_ends written
  rw [search, if_neg (ne_empty_of_concat ends), AccountId.parse?_of_last ends (by decide)]
  dsimp only
  rw [written, bracketed_append plain]

/-- A text that is closed by a parenthesis is a number if there is one between the two. -/
theorem search_of_enclosed {before inner : List Char} {id : AccountId}
    (written : token.toList = before ++ '(' :: (inner ++ [')'])) (plain : '(' ∉ inner)
    (number : AccountId.parse? (String.ofList (Text.trimChars inner)) = some id) :
    search sameMail token = firstOf fun a => a.id = id := by
  have ends := concat_of_ends written
  have round : bracketedId token = some id := by
    rw [bracketedId, written, bracketed_append plain, Option.bind_some, number]
  rw [search, if_neg (ne_empty_of_concat ends), AccountId.parse?_of_last ends (by decide)]
  dsimp only
  rw [ends, bracketed_of_last (by decide)]
  dsimp only
  rw [round]

theorem search_of_username (valid : isValidUsername token = true)
    (name : AccountId.parse? token = none) : search sameMail token = searchName sameMail token := by
  have some : token ≠ "" := by
    rintro rfl
    exact absurd valid (by decide)
  have angle : bracketed '<' '>' token.toList = none := bracketed_of_username valid (by decide)
  have round : bracketed '(' ')' token.toList = none := bracketed_of_username valid (by decide)
  rw [search, if_neg some, name]
  simp only [angle, bracketedId, round, Option.bind_none]

end

theorem trim_username {name : String} (valid : isValidUsername name = true) :
    Text.trim name = name := by
  have between : ∀ c, isUsernameChar c = true → Text.isBlank c = false := by
    intro c h
    simp only [isUsernameChar, Bool.or_eq_true, decide_eq_true_eq] at h
    rcases h with (((h | rfl) | rfl) | rfl) | rfl
    · exact Text.isBlank_of_alphanumeric h
    all_goals decide
  refine Text.trim_of_not_blank fun c there => between c ?_
  unfold isValidUsername at valid
  split at valid
  · cases valid
  · next d ds written =>
    rw [written] at there
    exact List.all_eq_true.1 (Bool.and_eq_true_iff.1 valid).2 c there

section
variable {w : World} {settings : Settings} {caller : Caller} {token : String} {a : Account}

theorem mem_firstOf_id {s : Store} (hs : s.Numbered) {id : AccountId} :
    a ∈ firstOf (fun a => a.id = id) s.accounts ↔ a ∈ s.accounts ∧ a.id = id := by
  rw [firstOf, Option.mem_toList]
  exact Store.find?_key_eq_some_iff hs.distinct

/-- A token leads to an account that it matches, if the caller sees it and no other match. -/
theorem parseAccount_of_only (hs : w.store.Reachable) (hf : w.failing = [])
    (other : Text.trim token ≠ "self") (there : a ∈ w.store.matching (Text.trim token))
    (seen : Sees settings caller w a)
    (only : ∀ b ∈ w.store.matching (Text.trim token), Sees settings caller w b → b = a) :
    (parseAccount settings caller token).run w = (.ok a, w) := by
  have alone : w.store.shown settings caller token = [a] :=
    filter_eq_singleton (Store.nodup_matching hs.numbered _) there ((sees_iff hf a).1 seen)
      fun b hb shown => only b hb ((sees_iff hf b).2 shown)
  rw [run_parseAccount settings caller hf other, alone]
  rfl

theorem parseAccount_of_id (hs : w.store.Reachable) (hf : w.failing = [])
    (there : a ∈ w.store.accounts) (seen : Sees settings caller w a)
    (other : Text.trim token ≠ "self")
    (found : w.store.matching (Text.trim token) = firstOf (fun b => b.id = a.id) w.store.accounts) :
    (parseAccount settings caller token).run w = (.ok a, w) := by
  refine parseAccount_of_only hs hf other ?_ seen fun b hb _ => ?_
  · rw [found, mem_firstOf_id hs.numbered]
    exact ⟨there, rfl⟩
  · rw [found, mem_firstOf_id hs.numbered] at hb
    exact Store.eq_of_distinct hs.numbered.distinct hb.1 there hb.2

theorem not_denotes_self (n : UInt32) : ¬Denotes "self".toList n.toNat := by
  intro number
  have read := AccountId.parse?_eq_some_iff.2 number
  rw [parse?_self] at read
  cases read

/-- A username that is no number matches just the account that has it. -/
theorem matching_of_username {s : Store} {name : String} (hs : s.Distinct)
    (there : a ∈ s.accounts) (named : a.username = some name)
    (valid : isValidUsername name = true) (word : AccountId.parse? name = none) :
    s.matching name = [a] := by
  have first := hs.findByUsername there named
  rw [Store.findByUsername_eq] at first
  rw [Store.matching, search_of_username valid word, searchName, orElse, firstOf, first]
  rfl

/-- The word for the caller leads just to the caller. -/
theorem parseAccount_self_iff :
    (parseAccount settings caller "self").run w = (.ok a, w) ↔ caller = .user a := by
  cases caller with
  | anonymous =>
    refine iff_of_false (fun h => ?_) nofun
    cases congrArg Prod.fst h
  | user b =>
    have run : (parseAccount settings (.user b) "self").run w = (.ok b, w) := rfl
    rw [run, Prod.mk.injEq, Except.ok.injEq, Caller.user.injEq]
    exact and_iff_left rfl

/-- Who is found where just one number is looked for has that number. -/
theorem id_of_parseAccount {id : AccountId} (hs : w.store.Reachable) (hf : w.failing = [])
    (other : Text.trim token ≠ "self")
    (found : w.store.matching (Text.trim token) = firstOf (fun b => b.id = id) w.store.accounts)
    (run : (parseAccount settings caller token).run w = (.ok a, w)) : a.id = id := by
  rw [run_parseAccount settings caller hf other] at run
  have alone := unique_eq_ok.1 (Prod.mk.inj run).1
  dsimp only at alone
  have shown : a ∈ w.store.shown settings caller token := alone ▸ List.mem_singleton_self a
  rw [Store.shown, List.mem_filter, found, mem_firstOf_id hs.numbered] at shown
  exact shown.1.2

/-- A valid username leads to its account, unless it is `self`, which names the caller, or a number,
which names the account of that number. -/
theorem parseAccount_username_iff {name : String} (hs : w.store.Reachable) (hf : w.failing = [])
    (there : a ∈ w.store.accounts) (seen : Sees settings caller w a)
    (named : a.username = some name) (valid : isValidUsername name = true) :
    (parseAccount settings caller name).run w = (.ok a, w) ↔
      (name = "self" → caller = .user a) ∧
        ∀ n : UInt32, Denotes name.toList n.toNat → a.id = ⟨n⟩ := by
  have clean := trim_username valid
  by_cases self : name = "self"
  · subst self
    rw [parseAccount_self_iff]
    exact ⟨fun own => ⟨fun _ => own, fun n number => absurd number (not_denotes_self n)⟩,
      fun h => h.1 rfl⟩
  have other : Text.trim name ≠ "self" := by rwa [clean]
  cases read : AccountId.parse? name with
  | some id =>
    have found : w.store.matching (Text.trim name) =
        firstOf (fun b => b.id = id) w.store.accounts := by
      rw [clean, Store.matching, search_of_number read]
    constructor
    · intro run
      refine ⟨fun h => absurd h self, fun n number => ?_⟩
      rw [AccountId.parse?_eq_some_iff.2 number] at read
      rw [id_of_parseAccount hs hf other found run, Option.some.inj read]
    · intro h
      have own : a.id = id := h.2 id.number (AccountId.parse?_eq_some_iff.1 read)
      exact parseAccount_of_id hs hf there seen other (own ▸ found)
  | none =>
    refine iff_of_true ?_ ⟨fun h => absurd h self, fun n number => ?_⟩
    · have found : w.store.matching (Text.trim name) = [a] := by
        rw [clean, matching_of_username hs.distinct there named valid read]
      refine parseAccount_of_only hs hf other ?_ seen fun b hb _ => ?_
      · exact found ▸ List.mem_singleton_self a
      · rw [found] at hb
        exact List.mem_singleton.1 hb
    · rw [AccountId.parse?_eq_some_iff.2 number] at read
      cases read

end

/-- Accounts whose usernames are the number of another account and the word for the caller, and a
third one that is just called by its name. -/
def oddNames : World where
  store := .memory
    ⟨[⟨⟨1000⟩, some "1001", none, none, true, 0⟩, ⟨⟨1001⟩, some "self", none, none, true, 0⟩,
      ⟨⟨1002⟩, some "guest", none, none, true, 0⟩], 1003, [], 1, []⟩
  failing := []
  directory := .listed []
  now := 0
  readOnly := false

theorem reachable_oddNames : oddNames.store.Reachable :=
  ((Store.Reachable.memory.write (.createAccount
      (show _ from rfl : Store.createAccount _ ⟨some "1001", none, none, true, 0⟩ =
        .ok (_, _)))).write
    (.createAccount
      (show _ from rfl : Store.createAccount _ ⟨some "self", none, none, true, 0⟩ =
        .ok (_, _)))).write
    (.createAccount
      (show _ from rfl : Store.createAccount _ ⟨some "guest", none, none, true, 0⟩ = .ok (_, _)))

/-- The third account sees the first two and asks for them by their valid usernames. One leads to
the account of that number and the other one to the third account itself. -/
theorem usernames_taken_otherwise :
    oddNames.store.Reachable ∧ oddNames.failing = [] ∧
    ∃ numbered itself guest, oddNames.store.accounts = [numbered, itself, guest] ∧
      Sees .default (.user guest) oddNames numbered ∧
      numbered.username = some "1001" ∧ isValidUsername "1001" = true ∧
      ((parseAccount .default (.user guest) "1001").run oddNames).1 = .ok itself ∧
      itself ≠ numbered ∧
      Sees .default (.user guest) oddNames itself ∧
      itself.username = some "self" ∧ isValidUsername "self" = true ∧
      ((parseAccount .default (.user guest) "self").run oddNames).1 = .ok guest ∧
      guest ≠ itself := by
  refine ⟨reachable_oddNames, rfl, _, _, _, rfl, ?_⟩
  unfold Sees
  decide

/-- The third account is found by its username. -/
theorem guest_found_by_name : ∃ guest ∈ oddNames.store.accounts, guest.username = some "guest" ∧
    (parseAccount .default .anonymous "guest").run oddNames = (.ok guest, oddNames) := by
  have there : ⟨⟨1002⟩, some "guest", none, none, true, 0⟩ ∈ oddNames.store.accounts := by decide
  have seen : Sees .default .anonymous oddNames ⟨⟨1002⟩, some "guest", none, none, true, 0⟩ := by
    unfold Sees
    decide
  refine ⟨_, there, rfl, (parseAccount_username_iff reachable_oddNames rfl there seen rfl
    (by decide)).2 ⟨fun self => absurd self (by decide), fun n number => ?_⟩⟩
  have read := AccountId.parse?_eq_some_iff.2 number
  rw [show AccountId.parse? "guest" = none by decide] at read
  cases read

section
variable {w : World} {settings : Settings} {caller : Caller} {token : String} {a : Account}

/-- A mail address that keeps its form between angle brackets and in every comparison. -/
structure Enclosable (mail : String) : Prop where
  opening : '<' ∉ mail.toList
  nul : '\x00' ∉ mail.toList
  trimmed : Text.trim mail = mail

theorem toList_trim_of_ends {cs inner : List Char} {c d : Char}
    (written : token.toList = cs ++ c :: (inner ++ [d])) (hc : Text.isBlank c = false)
    (hd : Text.isBlank d = false) :
    (Text.trim token).toList = Text.trimStart cs ++ c :: (inner ++ [d]) := by
  rw [Text.trim, String.toList_ofList, written, Text.trimChars_of_ends hc hd]

theorem ne_self_of_last {cs inner : List Char} {c d : Char}
    (written : token.toList = cs ++ c :: (inner ++ [d])) (other : d ≠ 'f') : token ≠ "self" := by
  rintro rfl
  have last := congrArg List.getLast? (concat_of_ends written)
  rw [List.getLast?_concat] at last
  exact other (Option.some.inj last).symm

/-- The number of an account in parentheses names it after any text. -/
theorem parseAccount_enclosed (hs : w.store.Reachable) (hf : w.failing = [])
    (there : a ∈ w.store.accounts) (seen : Sees settings caller w a) (x : String) :
    (parseAccount settings caller (x ++ " (" ++ a.id.text ++ ")")).run w = (.ok a, w) := by
  have written : (x ++ " (" ++ a.id.text ++ ")").toList =
      (x.toList ++ [' ']) ++ '(' :: (a.id.text.toList ++ [')']) := by simp
  have trimmed := toList_trim_of_ends written (by decide) (by decide)
  have digits : '(' ∉ a.id.text.toList := by
    intro bracket
    obtain ⟨d, small, same⟩ := mem_decimalText bracket
    exact absurd same (by revert d; decide)
  have number : AccountId.parse? (String.ofList (Text.trimChars a.id.text.toList)) =
      some a.id := by
    rw [show String.ofList (Text.trimChars a.id.text.toList) = a.id.text from a.id.trim_text,
      AccountId.parse?_text]
  refine parseAccount_of_id hs hf there seen (ne_self_of_last trimmed (by decide)) ?_
  rw [Store.matching, search_of_enclosed trimmed digits number]

/-- A mail address in angle brackets names the one account that is seen to have it, after any
text. -/
theorem parseAccount_mail (hs : w.store.Reachable) (hf : w.failing = [])
    (there : a ∈ w.store.accounts) (seen : Sees settings caller w a) {mail : String}
    (has : a.preferredEmail = some mail) (enclosable : Enclosable mail)
    (alone : ∀ b ∈ w.store.accounts, Sees settings caller w b →
      ∀ other ∈ b.preferredEmail, Text.sameFolded other mail = true → b = a) (x : String) :
    (parseAccount settings caller (x ++ " <" ++ mail ++ ">")).run w = (.ok a, w) := by
  have written : (x ++ " <" ++ mail ++ ">").toList =
      (x.toList ++ [' ']) ++ '<' :: (mail.toList ++ ['>']) := by simp
  have trimmed := toList_trim_of_ends written (by decide) (by decide)
  have inner : String.ofList (Text.trimChars mail.toList) = mail := enclosable.trimmed
  have found (b : Account) : b ∈ w.store.matching (Text.trim (x ++ " <" ++ mail ++ ">")) ↔
      b ∈ w.store.accounts ∧ ∃ other ∈ b.preferredEmail, w.store.sameMail other mail = true := by
    rw [Store.matching, search_of_mail trimmed enclosable.opening, inner, searchMail, allOf,
      List.mem_filter, Option.any_eq_true]
    rfl
  refine parseAccount_of_only hs hf (ne_self_of_last trimmed (by decide)) ?_ seen
    fun b hb shown => ?_
  · exact (found a).2 ⟨there, mail, has, w.store.sameMail_of_sameFolded (Text.sameFolded_iff.2 rfl)⟩
  · obtain ⟨old, other, holds, same⟩ := (found b).1 hb
    rcases Store.sameFolded_of_sameMail same with folded | ⟨-, -, nul⟩
    · exact alone b old shown other holds folded
    · exact absurd nul enclosable.nul

/-- The number of an account, the number in parentheses after any text and its mail address in
angle brackets after any text lead to the account, and so does its name with its mail address. -/
theorem parseAccount_described (settings : Settings) (caller : Caller) (hs : w.store.Reachable)
    (hf : w.failing = []) (there : a ∈ w.store.accounts) (seen : Sees settings caller w a) :
    (parseAccount settings caller a.id.text).run w = (.ok a, w) ∧
    (∀ x, (parseAccount settings caller (x ++ " (" ++ a.id.text ++ ")")).run w = (.ok a, w)) ∧
    ∀ mail, a.preferredEmail = some mail → Enclosable mail →
      (∀ b ∈ w.store.accounts, Sees settings caller w b →
        ∀ other ∈ b.preferredEmail, Text.sameFolded other mail = true → b = a) →
      (∀ x, (parseAccount settings caller (x ++ " <" ++ mail ++ ">")).run w = (.ok a, w)) ∧
      ∀ name, a.fullName = some name →
        ∃ token, a.nameEmail = some token ∧
          (parseAccount settings caller token).run w = (.ok a, w) := by
  refine ⟨?_, parseAccount_enclosed hs hf there seen, fun mail has enclosable alone => ?_⟩
  · have other : Text.trim a.id.text ≠ "self" := by
      rw [a.id.trim_text]
      intro self
      have read := a.id.parse?_text
      rw [self, parse?_self] at read
      cases read
    refine parseAccount_of_id hs hf there seen other ?_
    rw [a.id.trim_text, Store.matching, search_of_number a.id.parse?_text]
  · have enclosed := parseAccount_mail hs hf there seen has enclosable alone
    refine ⟨enclosed, fun name full => ⟨name ++ " <" ++ mail ++ ">", ?_, enclosed name⟩⟩
    rw [Account.nameEmail, full, has]

end

/-- An account whose full name has brackets of both kinds, and one with the same mail address in
other letters. -/
def brackets : Account :=
  ⟨⟨1000⟩, none, some "Ann <x> (7", some "Ann@b.c", true, 0⟩

def sharedMail : World where
  store := .tables { TableStore.empty with
    accounts := [brackets, ⟨⟨1001⟩, some "guest", none, some "ann@B.c", true, 0⟩] }
  failing := []
  directory := .listed []
  now := 0
  readOnly := false

theorem reachable_sharedMail : sharedMail.store.Reachable :=
  (Store.Reachable.tables.write (.createAccount
      (show _ from rfl : Store.createAccount _ ⟨none, some "Ann <x> (7", some "Ann@b.c", true, 0⟩ =
        .ok (_, _)))).write
    (.createAccount
      (show _ from rfl : Store.createAccount _ ⟨some "guest", none, some "ann@B.c", true, 0⟩ =
        .ok (_, _)))

/-- Where accounts are hidden from each other, her name with her mail address leads the first one
to herself, and so does her number after that of the other one. -/
theorem brackets_described :
    (parseAccount unseen (.user brackets) "self (1001) (1000)").run sharedMail =
        (.ok brackets, sharedMail) ∧
    (parseAccount unseen (.user brackets) "Ann <x> (7 <Ann@b.c>").run sharedMail =
        (.ok brackets, sharedMail) := by
  obtain ⟨-, enclosed, mail⟩ := parseAccount_described unseen (.user brackets)
    reachable_sharedMail rfl (List.mem_cons_self) (sees_self unseen sharedMail brackets)
  have alone : ∀ b ∈ sharedMail.store.accounts, Sees unseen (.user brackets) sharedMail b →
      ∀ other ∈ b.preferredEmail, Text.sameFolded other "Ann@b.c" = true → b = brackets := by
    intro b there seen other holds same
    rcases List.mem_cons.1 there with rfl | there
    · rfl
    · obtain rfl := List.mem_singleton.1 there
      revert seen
      unfold Sees
      decide
  obtain ⟨-, named⟩ := mail "Ann@b.c" rfl ⟨by decide, by decide, by decide⟩ alone
  obtain ⟨token, written, found⟩ := named _ rfl
  cases written
  exact ⟨enclosed "self (1001)", found⟩

end CodeReview
