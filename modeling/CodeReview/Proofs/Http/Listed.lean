import CodeReview.Proofs.Account.Naming
import CodeReview.Proofs.Change.Votes
import CodeReview.Proofs.Group.Opening
import CodeReview.Proofs.Http.Repeated
import CodeReview.Proofs.Text.Order
set_option autoImplicit false

/-!
Members that are listed and members that are asked for. The list has one entry for each member, in
an order that no two of them share, so it is settled by who the members are and what their
accounts say. An account that the caller sees is found among the members by its number exactly
when it is listed, and with the same entry.
-/
namespace CodeReview
open Act

/-- A missing name comes first, and others have the order of their bytes. -/
def NameLess : Option String → Option String → Prop
  | none, some _ => True
  | some a, some b => Text.Utf8.bytes a < Text.Utf8.bytes b
  | _, none => False

/-- The order of members: by full name, then by number. -/
def AccountSummary.Before (a b : AccountSummary) : Prop :=
  NameLess a.name b.name ∨ a.name = b.name ∧ a.id.Less b.id

theorem nameLess_trans {a b c : Option String} (h : NameLess a b) (k : NameLess b c) :
    NameLess a c := by
  cases a <;> cases b <;> cases c <;> simp only [NameLess] at h k ⊢
  exact List.lt_trans h k

namespace AccountSummary
variable {a b c : AccountSummary}

theorem Before.trans (h : a.Before b) (k : b.Before c) : a.Before c := by
  rcases h with name | ⟨same, number⟩
  · rcases k with next | ⟨same, -⟩
    · exact .inl (nameLess_trans name next)
    · exact .inl (same ▸ name)
  · rcases k with next | ⟨again, more⟩
    · exact .inl (same ▸ next)
    · exact .inr ⟨same.trans again, AccountSet.less_trans number more⟩

end AccountSummary

/-- The members as they are listed, given the accounts. -/
def Store.listing (s : Store) (members : AccountSet) : List AccountSummary :=
  sortSummaries (members.ids.map (s.summary true))

section
variable {s t : Store} {members : AccountSet}

end

section
variable {settings : Settings} {caller : Caller} {w : World} {g : Group} {access : GroupAccess}

theorem run_summaries_of_works (hf : w.failing = []) (ids : List AccountId) :
    (summaries (summaryOf true) ids).run w = (.ok (ids.map (w.store.summary true)), w) := by
  induction ids with
  | nil => rfl
  | cons id ids ih =>
    rw [summaries, run_bind_of_ok (run_summaryOf (by simp [hf]) true id), run_bind_of_ok ih]
    rfl

theorem run_listMembers (hf : w.failing = []) (can : access.canSeeMembers = true) :
    (listMembers ⟨.stored g, access⟩).run w = (.ok (w.store.listing g.members), w) := by
  have stored : (Act.ofExcept (OpenGroup.stored ⟨.stored g, access⟩)).run w = (.ok g, w) := rfl
  rw [listMembers, run_bind_of_ok stored, can]
  exact run_bind_of_ok (run_summaries_of_works hf g.members.ids)

/-- Accounts that the caller sees are found by their numbers. -/
theorem parseAccount_number {a : Account} (hs : w.store.Reachable) (hf : w.failing = [])
    (there : a ∈ w.store.accounts) (seen : Sees settings caller w a) :
    (parseAccount settings caller a.id.text).run w = (.ok a, w) := by
  have other : Text.trim a.id.text ≠ "self" := by
    rw [a.id.trim_text]
    intro self
    have read := a.id.parse?_text
    rw [self, parse?_self] at read
    cases read
  refine parseAccount_of_id hs hf there seen other ?_
  rw [a.id.trim_text, Store.matching, search_of_number a.id.parse?_text]

theorem run_findMember_number {a : Account} (hs : w.store.Reachable) (hf : w.failing = [])
    (there : a ∈ w.store.accounts) (seen : Sees settings caller w a) :
    (findMember settings caller ⟨.stored g, access⟩ a.id.text).run w =
      (.ok (if a.id ∈ g.members.ids then some (w.store.summary true a.id) else none), w) := by
  have stored : (Act.ofExcept (OpenGroup.stored ⟨.stored g, access⟩)).run w = (.ok g, w) := rfl
  have known : w.store.accounts.find? (fun b => b.id = a.id) = some a :=
    (Store.find?_key_eq_some_iff hs.numbered.distinct).2 ⟨there, rfl⟩
  have shown : w.store.summary true a.id = .detailed a := by
    rw [Store.summary, known]
    rfl
  rw [findMember, run_bind_of_ok stored, run_bind, run_outcome,
    parseAccount_number hs hf there seen]
  dsimp only
  by_cases member : a.id ∈ g.members.ids
  · have has : g.hasMember a.id = true := AccountSet.contains_iff.2 member
    have entry := run_requiredSummary (by simp [hf]) (Store.getAccount_eq_ok.2 known)
    rw [if_pos has, if_pos member, shown, run_bind_of_ok entry]
    rfl
  · have lacks : ¬g.hasMember a.id = true := fun has => member (AccountSet.contains_iff.1 has)
    rw [if_neg lacks, if_neg member]
    rfl

end

end CodeReview

namespace CodeReview.Http
open Act

/-- A GET request of the caller, who sees the group that a part of the path names. -/
structure Asks (site : Site) (w : World) (caller : Caller) (g : Group) (r : Request)
    (part : List Char) : Prop where
  method : r.method = "GET"
  sender : (callerOf r).run w = (.ok caller, w)
  opens : ∃ text access, Text.Percent.segment? part = some text ∧
    (openGroup site.settings caller (String.ofList text)).run w = (.ok ⟨.stored g, access⟩, w)

section
variable {site : Site} {w : World} {caller : Caller} {g : Group} {r : Request}
  {part who : List Char}

theorem canSeeMembers_of_openGroup {settings : Settings} {id : String} {access : GroupAccess}
    (hf : w.failing = [])
    (h : (openGroup settings caller id).run w = (.ok ⟨.stored g, access⟩, w)) :
    access.canSeeMembers = true := by
  obtain ⟨-, -, rfl, visible⟩ := (openGroup_eq_stored hf).1 h
  rw [GroupAccess.canSeeMembers, visible, Store.accessTo]
  cases caller.accountId? <;> rfl

theorem Asks.listed (asks : Asks site w caller g r part) (hf : w.failing = [])
    (path : Route.ofPath r.path = some (.members part)) :
    answer site r w = (.json 200 (summariesJson (w.store.listing g.members)), w) := by
  obtain ⟨text, access, segment, opened⟩ := asks.opens
  rw [answer_of_route path asks.method List.mem_cons_self (by decide), answerRoute, withSegment,
    segment]
  dsimp only
  rw [asks.method, if_neg (by decide)]
  refine respond_of_ok ?_
  rw [readMembers, run_bind_of_ok asks.sender, run_bind_of_ok opened,
    run_bind_of_ok (run_listMembers hf (canSeeMembers_of_openGroup hf opened))]
  rfl

theorem Asks.found (asks : Asks site w caller g r part) (hs : w.store.Reachable)
    (hf : w.failing = []) (path : Route.ofPath r.path = some (.member part who)) {a : Account}
    (there : a ∈ w.store.accounts) (seen : Sees site.settings caller w a)
    (number : Text.Percent.segment? who = some a.id.text.toList) :
    answer site r w =
      (if a.id ∈ g.members.ids then .json 200 (w.store.summary true a.id).toJson
        else .ofError (.resourceMissing a.id.text), w) := by
  obtain ⟨text, access, segment, opened⟩ := asks.opens
  have found : (findMember site.settings caller ⟨.stored g, access⟩ a.id.text).run w =
      (.ok (if a.id ∈ g.members.ids then some (w.store.summary true a.id) else none), w) :=
    run_findMember_number hs hf there seen
  rw [answer_of_route path asks.method List.mem_cons_self (by decide), answerRoute, withSegment,
    segment]
  dsimp only
  rw [withSegment, number]
  dsimp only
  rw [asks.method, if_neg (by decide), String.ofList_toList]
  by_cases member : a.id ∈ g.members.ids
  · rw [if_pos member] at found ⊢
    refine respond_of_ok ?_
    rw [readMember, run_bind_of_ok asks.sender, run_bind_of_ok opened, run_bind_of_ok found]
    rfl
  · rw [if_neg member] at found ⊢
    refine respond_of_error ?_
    rw [readMember, run_bind_of_ok asks.sender, run_bind_of_ok opened, run_bind_of_ok found]
    rfl

end

end CodeReview.Http
