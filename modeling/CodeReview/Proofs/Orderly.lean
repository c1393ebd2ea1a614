import CodeReview.Proofs.Change.Shown
import CodeReview.Proofs.Group.Sessions
import CodeReview.Proofs.Store.Later
import CodeReview.Change.Query
import CodeReview.Group.MembersInput
set_option autoImplicit false

/-!
Errors of the site itself, as opposed to errors that a request brings about. In a world whose
store was written call by call and never fails, reading ends in no such error: what a store
answers fits together, so a row can be read and what one call has found the next one finds too.
-/
namespace CodeReview
open Act

/-- The store was written call by call, and no call fails. -/
structure World.Intact (w : World) : Prop where
  reachable : w.store.Reachable
  works : w.failing = []
  writable : w.readOnly = false

theorem World.Continues.intact {w v : World} (c : w.Continues v) (h : w.Intact) : v.Intact :=
  ⟨c.reachable h.reachable, c.failing.trans h.works, c.readOnly.trans h.writable⟩

namespace Act
variable {α β : Type} {w : World}

/-- The action ends in an error of the site itself. -/
def Breaks (x : Act ApiError α) (w : World) : Prop :=
  ∃ e, (x.run w).1 = .error e ∧ e.kind = .internalError

/-- The action only reads, and never breaks in an intact world. -/
structure Orderly (x : Act ApiError α) : Prop where
  reads : Reads x
  never : ∀ w : World, w.Intact → ¬Breaks x w

theorem not_breaks_of_ok {x : Act ApiError α} {a : α} (h : (x.run w).1 = .ok a) : ¬Breaks x w := by
  rintro ⟨e, failed, -⟩
  rw [h] at failed
  cases failed

theorem not_breaks_of_error {x : Act ApiError α} {e : ApiError} (h : (x.run w).1 = .error e)
    (other : e.kind ≠ .internalError) : ¬Breaks x w := by
  rintro ⟨d, failed, internal⟩
  rw [h] at failed
  cases failed
  exact other internal

/-- An action breaks after a first one, or because the first one does. -/
theorem breaks_bind_iff {x : Act ApiError α} {f : α → Act ApiError β} :
    Breaks (x >>= f) w ↔
      Breaks x w ∨ ∃ a v, x.run w = (.ok a, v) ∧ Breaks (f a) v := by
  unfold Breaks
  rw [run_bind]
  cases first : x.run w with
  | mk result v =>
    cases result with
    | error e => simp
    | ok a =>
      constructor
      · exact fun broken => .inr ⟨a, v, rfl, broken⟩
      · rintro (⟨e, failed, -⟩ | ⟨b, u, same, broken⟩)
        · cases failed
        · cases same
          exact broken

theorem breaks_bind_pure_iff {x : Act ApiError α} {f : α → β} :
    Breaks (x >>= fun a => Pure.pure (f a)) w ↔ Breaks x w := by
  rw [breaks_bind_iff]
  refine or_iff_left ?_
  rintro ⟨_, _, -, broken⟩
  exact not_breaks_of_ok rfl broken

namespace Orderly

theorem pure (a : α) : Orderly (Pure.pure a : Act ApiError α) :=
  ⟨.pure a, fun _ _ => not_breaks_of_ok rfl⟩

theorem fail {e : ApiError} (other : e.kind ≠ .internalError) :
    Orderly (Act.fail e : Act ApiError α) :=
  ⟨.fail e, fun _ _ => not_breaks_of_error rfl other⟩

theorem ofExcept {r : Except ApiError α}
    (other : ∀ e, r = .error e → e.kind ≠ .internalError) : Orderly (Act.ofExcept r) :=
  ⟨.ofExcept r, fun _ _ broken => by
    obtain ⟨e, failed, internal⟩ := broken
    exact other e failed internal⟩

/-- After an action that is orderly, breaking is left to what follows. -/
theorem breaks_bind {x : Act ApiError α} (hx : Orderly x) (h : w.Intact)
    {f : α → Act ApiError β} :
    Breaks (x >>= f) w ↔ ∃ a, x.run w = (.ok a, w) ∧ Breaks (f a) w := by
  rw [breaks_bind_iff]
  constructor
  · rintro (broken | ⟨a, v, first, broken⟩)
    · exact absurd broken (hx.never w h)
    · obtain rfl := hx.reads.world_eq first
      exact ⟨a, first, broken⟩
  · rintro ⟨a, first, broken⟩
    exact .inr ⟨a, w, first, broken⟩

theorem bind {x : Act ApiError α} {f : α → Act ApiError β} (hx : Orderly x)
    (hf : ∀ a, Orderly (f a)) : Orderly (x >>= f) where
  reads := hx.reads.bind fun a => (hf a).reads
  never w h broken := by
    obtain ⟨a, -, later⟩ := (hx.breaks_bind h).1 broken
    exact (hf a).never w h later

theorem of_ok {x : Act ApiError α} (reads : Reads x)
    (ok : ∀ w : World, w.Intact → ∃ a, x.run w = (.ok a, w)) : Orderly x := by
  refine ⟨reads, fun w h => ?_⟩
  obtain ⟨a, run⟩ := ok w h
  exact not_breaks_of_ok (by rw [run])

theorem ite {p : Prop} [Decidable p] {x y : Act ApiError α} (hx : Orderly x) (hy : Orderly y) :
    Orderly (if p then x else y) := by
  split
  · exact hx
  · exact hy

end Orderly

theorem orderly_getChange (n : ChangeNumber) (pin : Option ObjectId) :
    Orderly ((getChange n pin).mapError ApiError.ofStore) := by
  refine ⟨(ungrouped_getChange n pin).reads.mapError _, fun w h broken => ?_⟩
  obtain ⟨e, failed, internal⟩ := broken
  rw [run_mapError, getChange, run_read_of_works h.works] at failed
  cases found : w.store.getChange n pin with
  | ok x =>
    rw [found] at failed
    cases failed
  | error d =>
    rw [found] at failed
    cases failed
    rcases h.reachable.getChange_error found with rfl | ⟨id, -, rfl⟩ <;> cases internal

end Act

theorem orderly_findChange (n : ChangeNumber) : Orderly (findChange n) := by
  refine .of_ok (ungrouped_findChange n).reads fun w h => ?_
  rw [findChange, run_bind, run_outcome, getChange, run_read_of_works h.works]
  cases found : w.store.getChange n none with
  | ok x => exact ⟨some x, rfl⟩
  | error e =>
    rcases h.reachable.getChange_error found with rfl | ⟨id, pinned, -⟩
    · exact ⟨none, rfl⟩
    · cases pinned

theorem orderly_acceptedChanges (accept : Change → Bool) (ns : List ChangeNumber) :
    Orderly (acceptedChanges accept ns) := by
  induction ns with
  | nil => exact .pure _
  | cons n ns ih => exact (orderly_getChange n none).bind fun _ => ih.bind fun _ => .pure _

theorem orderly_changeByKey (key : String) (accept : Change → Bool) :
    Orderly (changeByKey key accept) := by
  have found : Orderly ((Act.findByKey key).mapError ApiError.ofStore) :=
    .of_ok ((ungrouped_findByKey key).reads.mapError _) fun w h =>
      ⟨_, run_mapError_read h.works .findByKey fun s => s.findByKey key⟩
  refine .ite (.pure _) (found.bind fun numbers =>
    (orderly_acceptedChanges accept numbers).bind fun accepted => ?_)
  split
  · exact .pure _
  · exact .pure _

theorem orderly_changeOfParts (parts : List String) : Orderly (changeOfParts parts) := by
  unfold changeOfParts
  split
  · split
    · exact (orderly_findChange _).bind fun _ => .pure _
    · exact orderly_changeByKey _ _
  · split
    · exact (orderly_findChange _).bind fun _ => .pure _
    · exact .pure _
  · exact orderly_changeByKey _ _
  · exact .pure _

theorem orderly_parseChange (id : String) : Orderly (parseChange id) := by
  refine (orderly_changeOfParts (parts id)).bind fun found => ?_
  cases found with
  | some n => exact .pure _
  | none => exact .fail (by simp [ApiError.resourceMissing])

theorem orderly_reportChange (labels : List Label) (factories : List Factory)
    (options : OptionSet) (n : ChangeNumber) (pin : Option ObjectId) :
    Orderly (reportChange labels factories options n pin) := by
  refine (orderly_getChange n pin).bind fun s => ?_
  exact .of_ok (ungrouped_reportSnapshot _ _ _ _).reads fun w h =>
    ⟨_, run_reportSnapshot (h.works ▸ List.not_mem_nil) labels options s _⟩

theorem kind_of_step {p : ChangeQuery.Pending} {key value : String} {e : ApiError}
    (h : ChangeQuery.step p key value = .error e) : e.kind = .badRequest := by
  unfold ChangeQuery.step at h
  split at h
  · cases h
  split at h
  · split at h <;> cases h
    rfl
  split at h
  · split at h
    · cases h
    · split at h <;> cases h
      rfl
  · cases h
    rfl

theorem kind_of_steps {p : ChangeQuery.Pending} {pairs : List (String × String)} {e : ApiError}
    (h : ChangeQuery.steps p pairs = .error e) : e.kind = .badRequest := by
  induction pairs generalizing p with
  | nil => cases h
  | cons pair rest ih =>
    rw [ChangeQuery.steps] at h
    split at h
    · exact ih h
    · next failed =>
      cases h
      exact kind_of_step failed

/-- Parameters that cannot be read are the request's own fault. -/
theorem kind_of_ofPairs {pairs : List (String × String)} {e : ApiError}
    (h : ChangeQuery.ofPairs pairs = .error e) : e.kind = .badRequest := by
  unfold ChangeQuery.ofPairs at h
  split at h
  · next failed =>
    cases h
    exact kind_of_steps failed
  · split at h <;> cases h
    rfl

theorem kind_of_parse {body : List UInt8} {e : ApiError}
    (h : MembersInput.parse body = .error e) : e.kind = .badRequest := by
  unfold MembersInput.parse at h
  split at h
  · cases h
  · split at h
    · unfold MembersInput.ofValue at h
      split at h
      · cases h
      · cases h
      · split at h <;> cases h
        rfl
    · cases h
      rfl

theorem orderly_identify (id : AccountId) : Orderly (identify id) := by
  refine ⟨(ungrouped_identify id).reads, fun w h broken => ?_⟩
  obtain ⟨e, failed, internal⟩ := broken
  rw [identify, run_bind, run_outcome, getAccount, run_read_of_works h.works,
    Store.getAccount_eq] at failed
  cases found : w.store.accounts.find? fun a => a.id = id with
  | none =>
    rw [found] at failed
    cases failed
    cases internal
  | some a =>
    rw [found] at failed
    dsimp only at failed
    split at failed
    · cases failed
    · cases failed
      cases internal

theorem orderly_openGroup (settings : Settings) (caller : Caller) (id : String) :
    Orderly (openGroup settings caller id) := by
  have found : Orderly (findGroupReference id) := by
    refine .of_ok (reads_findGroupReference id) fun w h => ?_
    cases outside : GroupReference.external? id with
    | none => exact ⟨_, run_findGroupReference h.works outside⟩
    | some g =>
      rw [findGroupReference, outside]
      exact ⟨some g, rfl⟩
  have missing {α : Type} : Orderly (Act.fail (.groupMissing id) : Act ApiError α) :=
    .fail (by simp [ApiError.groupMissing])
  refine found.bind fun reference => ?_
  cases reference with
  | none => exact missing
  | some g =>
    have access : Orderly (groupAccess settings caller g) := by
      refine .of_ok (reads_groupAccess _ _ _) fun w h => ?_
      cases g with
      | external id name => exact ⟨_, rfl⟩
      | stored g => exact ⟨_, run_groupAccess h.works g⟩
    exact access.bind fun a => .ite (.pure _) missing

theorem orderly_stored (o : OpenGroup) : Orderly (Act.ofExcept o.stored) := by
  refine .ofExcept fun e failed => ?_
  unfold OpenGroup.stored at failed
  split at failed
  · cases failed
  · cases failed
    simp [ApiError.externalGroup]

theorem orderly_summaries {summary : AccountId → Act ApiError AccountSummary}
    (h : ∀ id, Orderly (summary id)) (ids : List AccountId) :
    Orderly (summaries summary ids) := by
  induction ids with
  | nil => exact .pure _
  | cons id ids ih => exact (h id).bind fun _ => ih.bind fun _ => .pure _

theorem orderly_findAccount (id : AccountId) : Orderly (findAccount id) :=
  .of_ok (ungrouped_findAccount id).reads fun _ h => ⟨_, run_findAccount_of_works h.works id⟩

theorem orderly_summaryOf (details : Bool) (id : AccountId) : Orderly (summaryOf details id) := by
  refine (orderly_findAccount id).bind fun found => ?_
  cases found with
  | some a => exact .pure _
  | none => exact .pure _

theorem orderly_requiredSummary (details : Bool) (id : AccountId) :
    Orderly (requiredSummary details id) := by
  refine (orderly_findAccount id).bind fun found => ?_
  cases found with
  | some a => exact .pure _
  | none => exact .fail (by simp [ApiError.ofStore])

theorem orderly_listMembers (o : OpenGroup) : Orderly (listMembers o) :=
  (orderly_stored o).bind fun g =>
    .ite (.fail (by simp [ApiError.groupMissing]))
      ((orderly_summaries (orderly_summaryOf true) g.members.ids).bind fun _ => .pure _)

theorem kind_of_requireUser {caller : Caller} {e : ApiError} (h : caller.requireUser = .error e) :
    e.kind = .authRequired := by
  cases caller with
  | anonymous =>
    cases h
    rfl
  | user a => cases h

theorem kind_of_unique {m : Matches} {token : String} {e : ApiError}
    (h : m.unique token = .error e) : e.kind = .unprocessableEntity := by
  unfold Matches.unique at h
  split at h <;> cases h <;> rfl

theorem orderly_lookupAccounts (settings : Settings) (caller : Caller) (token : String) :
    Orderly (lookupAccounts settings caller token) := by
  by_cases self : Text.trim token = "self"
  · have user : Orderly (Act.ofExcept caller.requireUser) := .ofExcept fun e failed => by
      rw [kind_of_requireUser failed]
      decide
    rw [lookupAccounts, if_pos self]
    exact user.bind fun a => .pure _
  · exact .of_ok (reads_lookupAccounts _ _ _) fun w h => ⟨_, run_lookupAccounts h.works self⟩

theorem orderly_parseAccount (settings : Settings) (caller : Caller) (token : String) :
    Orderly (parseAccount settings caller token) :=
  (orderly_lookupAccounts settings caller token).bind fun m => .ofExcept fun e failed => by
    rw [kind_of_unique failed]
    decide

theorem orderly_findMember (settings : Settings) (caller : Caller) (o : OpenGroup)
    (token : String) : Orderly (findMember settings caller o token) := by
  refine (orderly_stored o).bind fun g =>
    ⟨(((reads_parseAccount settings caller token).outcome.bind fun q => ?_)), fun w h broken => ?_⟩
  · split
    · exact Reads.ite ((ungrouped_requiredSummary true _).reads.bind fun _ => .pure _) (.pure _)
    · exact Reads.ite (.pure _) (.fail _)
  obtain ⟨_, failed, -⟩ | ⟨q, v, first, later⟩ := breaks_bind_iff.1 broken
  · cases failed
  have same := (reads_parseAccount settings caller token) w
  rw [run_outcome, Prod.mk.injEq, Except.ok.injEq, same] at first
  obtain ⟨rfl, rfl⟩ := first
  cases parsed : ((parseAccount settings caller token).run w).1 with
  | ok a =>
    rw [parsed] at later
    exact (Orderly.ite ((orderly_requiredSummary true a.id).bind fun _ => .pure _)
      (.pure _)).never w h later
  | error e =>
    rw [parsed] at later
    have regular : e.kind ≠ .internalError := fun internal =>
      (orderly_parseAccount settings caller token).never w h ⟨e, parsed, internal⟩
    exact (Orderly.ite (.pure _) (.fail regular)).never w h later

end CodeReview
