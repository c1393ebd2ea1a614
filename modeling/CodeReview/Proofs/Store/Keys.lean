import CodeReview.Proofs.Store.Distinct
import CodeReview.Proofs.Store.Later
set_option autoImplicit false

/-!
Keys of accounts and groups. No two entries share one, each look-up gives exactly the entry that
has the key, and an account that was once made is found under its id for all time.
-/
namespace CodeReview.Store
variable {s t u : Store}

/-- No two accounts share an id or a username, and no two groups a uuid, a number or a name. -/
structure Keyed (s : Store) : Prop where
  ids : s.accounts.Pairwise fun a b => a.id ≠ b.id
  usernames : s.accounts.Pairwise fun a b => a.username = none ∨ a.username ≠ b.username
  uuids : s.groups.Pairwise fun g h => g.uuid ≠ h.uuid
  numbers : s.groups.Pairwise fun g h => g.id ≠ h.id
  names : s.groups.Pairwise fun g h => g.name ≠ h.name

/-- A look-up gives an entry exactly if the entry has the key, and says so if none has it. -/
structure Finds (s : Store) : Prop where
  account : ∀ id a, s.getAccount id = .ok a ↔ a ∈ s.accounts ∧ a.id = id
  noAccount : ∀ id, (∀ a ∈ s.accounts, a.id ≠ id) → s.getAccount id = .error (.accountNotFound id)
  username : ∀ name a, s.findByUsername name = some a ↔ a ∈ s.accounts ∧ a.username = some name
  group : ∀ uuid g, s.getGroup uuid = .ok g ↔ g ∈ s.groups ∧ g.uuid = uuid
  noGroup : ∀ uuid, (∀ g ∈ s.groups, g.uuid ≠ uuid) →
    s.getGroup uuid = .error (.groupNotFound uuid.text)
  number : ∀ id g, s.findGroupById id = some g ↔ g ∈ s.groups ∧ g.id = id
  name : ∀ name g, s.findGroupByName name = some g ↔ g ∈ s.groups ∧ g.name = name

theorem find?_key_eq_some_iff {α β : Type} [DecidableEq β] {key : α → β} {l : List α}
    (distinct : l.Pairwise fun a b => key a ≠ key b) {k : β} {a : α} :
    l.find? (fun b => key b = k) = some a ↔ a ∈ l ∧ key a = k := by
  constructor
  · intro found
    exact ⟨List.mem_of_find?_eq_some found, by simpa using List.find?_some found⟩
  · rintro ⟨there, rfl⟩
    exact find?_of_distinct distinct there

theorem Founded.keyed {k : Nat} (h : Founded k s) (few : s.inLists = true → k < UInt32.size) :
    s.Keyed where
  ids := h.reachable.numbered.distinct
  usernames := h.reachable.distinct.usernames
  uuids := h.reachable.distinct.uuids
  numbers := h.numbers few
  names := h.reachable.distinct.names

theorem Keyed.finds (h : s.Keyed) (distinct : s.Distinct) : s.Finds where
  account id a := getAccount_eq_ok.trans (find?_key_eq_some_iff h.ids)
  noAccount id absent := by
    rw [getAccount_eq, List.find?_eq_none.2 fun a there => by simpa using absent a there]
  username name a :=
    ⟨mem_of_findByUsername, fun ⟨there, named⟩ => distinct.findByUsername there named⟩
  group uuid g := getGroup_eq_ok.trans (find?_key_eq_some_iff h.uuids)
  noGroup uuid absent := by
    rw [getGroup_eq, List.find?_eq_none.2 fun g there => by simpa using absent g there]
  number id g := by rw [findGroupById_eq, find?_key_eq_some_iff h.numbers]
  name name g := by rw [findGroupByName_eq, find?_key_eq_some_iff h.names]

theorem Write.account_kept (h : s.Write t) {a : Account} (there : a ∈ s.accounts) :
    ∃ active, { a with active := active } ∈ t.accounts := by
  rcases h.accounts_cases with ⟨same, -⟩ | ⟨n, b, made⟩ | ⟨id, active, -, marked⟩
  · exact ⟨a.active, same ▸ there⟩
  · rw [(createAccount_eq_ok made).2.1]
    exact ⟨a.active, List.mem_append_left _ there⟩
  · rw [marked]
    by_cases own : a.id = id
    · exact ⟨active, List.mem_map.2 ⟨a, there, if_pos own⟩⟩
    · exact ⟨a.active, List.mem_map.2 ⟨a, there, if_neg own⟩⟩

theorem Later.account_kept (later : s.Later t) {a : Account} (there : a ∈ s.accounts) :
    ∃ active, { a with active := active } ∈ t.accounts := by
  induction later with
  | refl => exact ⟨a.active, there⟩
  | tail _ ht ih =>
    obtain ⟨active, still⟩ := ih
    obtain ⟨next, kept⟩ := ht.account_kept still
    exact ⟨next, kept⟩

/-- An account that was made is found in every later store, changed at most in whether it is
active. -/
theorem Reachable.account_kept (h : s.Reachable) {n : NewAccount} {a : Account}
    (made : s.createAccount n = .ok (a, t)) (later : t.Later u) :
    ∃ active, u.getAccount a.id = .ok { a with active := active } := by
  have there : a ∈ t.accounts := by
    rw [(createAccount_eq_ok made).2.1]
    exact List.mem_append_right _ (List.mem_singleton.2 rfl)
  obtain ⟨active, still⟩ := later.account_kept there
  have reachable := later.reachable (h.write (.createAccount made))
  exact ⟨active, reachable.numbered.getAccount_of_mem still⟩

/-- Keys lead to one entry each in every store that writes lead to. Lists count their groups with
32 bits and go round after that, so there the law needs that fewer groups were made. -/
theorem keys_identify {k : Nat} (h : Founded k s) (few : s.inLists = true → k < UInt32.size) :
    s.Keyed ∧ s.Finds ∧ ∀ n a t u, s.createAccount n = .ok (a, t) → t.Later u →
      ∃ active, u.getAccount a.id = .ok { a with active := active } := by
  have keyed := h.keyed few
  exact ⟨keyed, keyed.finds h.reachable.distinct, fun n a t u => h.reachable.account_kept⟩

/-- Lists in which the name of a deleted group was given again. -/
def nameGivenAgain : Store :=
  .memory ⟨[], firstAccount,
    [⟨sampleUuid 2, ⟨2⟩, "a", none, sampleUuid 2, .empty, false, 0⟩], 3, []⟩

theorem founded_nameGivenAgain : Founded 2 nameGivenAgain := by
  have first : Founded 1 _ := Founded.memory.createGroup
    (show _ from rfl : createGroup _ (sampleUuid 1) (emptyGroup "a") = .ok (_, _))
  have none : Founded 1 _ := first.write
    (.deleteGroup (show _ from rfl : deleteGroup _ (sampleUuid 1) = .ok (_, _)))
    fun _ _ _ made => absurd (groupCounter?_of_createGroup made) (by decide)
  exact none.createGroup
    (show _ from rfl : createGroup _ (sampleUuid 2) (emptyGroup "a") = .ok (_, _))

/-- The name leads to the new group and the old number to none. An account that is made and then
marked as inactive is found under its id. -/
theorem keys_nameGivenAgain :
    (nameGivenAgain.findGroupByName "a").map Group.uuid = some (sampleUuid 2) ∧
    nameGivenAgain.findGroupById ⟨1⟩ = none ∧
    ∃ a t u, nameGivenAgain.createAccount ⟨some "ann", none, none, true, 0⟩ = .ok (a, t) ∧
      t.setActive a.id false = .ok ((), u) ∧
      u.getAccount a.id = .ok { a with active := false } := by
  obtain ⟨-, finds, kept⟩ := keys_identify founded_nameGivenAgain fun _ => by decide
  refine ⟨?_, ?_, _, _, _, rfl, rfl, ?_⟩
  · rw [(finds.name _ _).2 ⟨List.mem_singleton.2 rfl, rfl⟩]
    rfl
  · rw [Option.eq_none_iff_forall_ne_some]
    intro g found
    obtain ⟨there, number⟩ := (finds.number _ g).1 found
    rw [List.mem_singleton.1 there] at number
    cases number
  · obtain ⟨active, found⟩ := kept ⟨some "ann", none, none, true, 0⟩ _ _ _ rfl
      (.single (.setActive (show _ from rfl : setActive _ ⟨firstAccount⟩ false = .ok (_, _))))
    cases found
    rfl

end CodeReview.Store
