import CodeReview.Proofs.Group.Concealed
import CodeReview.Proofs.Group.Naming
import CodeReview.Proofs.Http.Service
set_option autoImplicit false

/-!
Requests of somebody who may not see a group. They are answered as if the group was deleted, and
what they change is changed alike in the store that has the group and in the one without it.
-/
namespace CodeReview.Http
open Act

section
variable {site : Site} {r : Request} {w : World} {g : Group} {u : Uuid}

/-- Whoever sends the request may not see the group. -/
def Conceals (site : Site) (r : Request) (w : World) (g : Group) : Prop :=
  ∀ caller, (callerOf r).run w = (.ok caller, w) → w.store.Conceals site.settings caller g

/-- What is done for any caller who may not see the group can be done for the one who sends the
request. -/
theorem Conceals.overlooks (c : Conceals site r w g) {f : Caller → Act ApiError Response}
    (each : ∀ caller, w.store.Conceals site.settings caller g → Overlooks g.uuid (f caller) w) :
    Overlooks g.uuid (callerOf r >>= f) w := by
  refine ((ungrouped_callerOf r).overlooks g.uuid w).bind fun caller v called => ?_
  obtain rfl := (reads_callerOf r).world_eq called
  exact each caller (c caller called)

theorem overlooks_readMembers (hf : w.failing = []) (c : Conceals site r w g) (group : String) :
    Overlooks g.uuid (readMembers site r group) w :=
  c.overlooks fun _ c => (overlooks_openGroup hf c group).bind fun o v _ =>
    ((ungrouped_listMembers o).overlooks _ v).bind fun _ _ _ => .pure _

theorem overlooks_postMembers (hf : w.failing = []) (c : Conceals site r w g) (group : String) :
    Overlooks g.uuid (postMembers site r group) w := by
  refine c.overlooks fun caller c => (Overlooks.ofExcept _).bind fun tokens v parsed => ?_
  obtain ⟨-, rfl⟩ := Prod.mk.inj parsed
  refine (overlooks_openGroup hf c group).bind fun o v opened => ?_
  obtain rfl := (reads_openGroup _ _ _).world_eq opened
  exact (overlooks_addMembers hf c (uuid?_of_openGroup hf c opened) tokens).bind
    fun _ _ _ => .pure _

theorem overlooks_readMember (hf : w.failing = []) (c : Conceals site r w g)
    (group member : String) : Overlooks g.uuid (readMember site r group member) w := by
  refine c.overlooks fun caller c => (overlooks_openGroup hf c group).bind fun o v opened => ?_
  obtain rfl := (reads_openGroup _ _ _).world_eq opened
  refine (overlooks_findMember hf c o member).bind fun found x _ => ?_
  cases found with
  | some s => exact .pure _
  | none => exact .fail _

theorem overlooks_writeMember (hf : w.failing = []) (c : Conceals site r w g)
    (group member : String) : Overlooks g.uuid (writeMember site r group member) w := by
  refine c.overlooks fun caller c => (overlooks_openGroup hf c group).bind fun o v opened => ?_
  obtain rfl := (reads_openGroup _ _ _).world_eq opened
  exact (overlooks_putMember hf c (uuid?_of_openGroup hf c opened) member).bind
    fun _ _ _ => .pure _

/-- The response is the same in the world without the group, and so is what it leaves. -/
def Overlooked (u : Uuid) (f : StateM World Response) (w : World) : Prop :=
  f (w.without u) = ((f w).1, (f w).2.without u)

theorem overlooked_respond {x : Act ApiError Response} (h : Overlooks u x w) :
    Overlooked u (respond x) w := by
  have same : ExceptT.run x (w.without u) = ((x.run w).1, (x.run w).2.without u) := h
  unfold Overlooked
  simp only [respond, bind, StateT.bind]
  rw [same, show ExceptT.run x w = x.run w from rfl]
  cases x.run w with
  | mk q v => cases q <;> rfl

theorem overlooked_withSegment {name : String} {cs : List Char}
    {f : String → StateM World Response} (h : ∀ text, Overlooked u (f text) w) :
    Overlooked u (withSegment name cs f) w := by
  unfold withSegment
  split
  · exact h _
  · rfl

theorem overlooked_withBody {m : StateM World Response} (h : Overlooked u m w) :
    Overlooked u (withBody r m) w := by
  unfold withBody
  split
  · rfl
  · exact h

theorem overlooked_answerRoute (hf : w.failing = []) (c : Conceals site r w g) (route : Route) :
    Overlooked g.uuid (answerRoute site r route) w := by
  have change (implied : OptionSet) (id : String) :
      Overlooked g.uuid (respond (readChange site r implied id)) w :=
    overlooked_respond ((ungrouped_readChange site r implied id).overlooks g.uuid w)
  cases route with
  | change id =>
    rw [answerRoute]
    exact overlooked_withSegment (change .empty)
  | changeDetail id =>
    rw [answerRoute]
    exact overlooked_withSegment (change detailOptions)
  | members id =>
    rw [answerRoute]
    refine overlooked_withSegment fun group => ?_
    split
    · exact overlooked_withBody (overlooked_respond (overlooks_postMembers hf c group))
    · exact overlooked_respond (overlooks_readMembers hf c group)
  | addMembers id =>
    rw [answerRoute]
    exact overlooked_withSegment fun group =>
      overlooked_withBody (overlooked_respond (overlooks_postMembers hf c group))
  | member id who =>
    rw [answerRoute]
    refine overlooked_withSegment fun group => overlooked_withSegment fun member => ?_
    split
    · exact overlooked_respond (overlooks_writeMember hf c group member)
    · exact overlooked_respond (overlooks_readMember hf c group member)

theorem overlooked_answer (hf : w.failing = []) (c : Conceals site r w g) :
    Overlooked g.uuid (answer site r) w := by
  rcases answer_cases site r with ⟨response, -, answers⟩ | ⟨route, f, -, -, -, answers⟩
  · rw [Overlooked, answers, answers]
  · rw [Overlooked, answers, answers, overlooked_answerRoute hf c route]

theorem Rightful.uuid {t : Store} (h : Rightful site r w t)
    (there : ∃ o ∈ w.store.groups, o.uuid = u) : ∃ o ∈ t.groups, o.uuid = u := by
  obtain ⟨o, there, rfl⟩ := there
  obtain rfl | ⟨-, -, -, g, ids, created, -, -, -, joined⟩ := h
  · exact ⟨o, there, rfl⟩
  · rw [joined.groups]
    exact ⟨_, List.mem_map_of_mem there, Store.modified_uuid _ _ o⟩

/-- No request takes a group away. -/
theorem uuid_of_answer (there : ∃ o ∈ w.store.groups, o.uuid = u) :
    ∃ o ∈ (answer site r w).2.store.groups, o.uuid = u := by
  rcases answer_cases site r with ⟨response, -, answers⟩ | ⟨route, f, path, method, -, answers⟩
  · rw [answers]
    exact there
  · rw [answers]
    exact (rightful_of_answerRoute path method rfl).uuid there

end

/-- A request of somebody who may not see a group is answered as if the group was deleted, and
the worlds that are left again differ by the group only. No other group may have the number of the
group, or a name that reads as it. That none has the number is so in tables, and in lists for as
long as their counter of 32 bits has not gone round (`Store.Founded.numbers`). -/
theorem hidden_group_as_deleted (site : Site) (r : Request) {w : World} {g : Group} {t : Store}
    (hs : w.store.Reachable) (hf : w.failing = []) (hg : g ∈ w.store.groups)
    (hidden : ∀ caller, (callerOf r).run w = (.ok caller, w) →
      ∃ access, (groupAccess site.settings caller (.stored g)).run w = (.ok access, w) ∧
        access.isVisible = false)
    (named : ∀ h ∈ w.store.groups, GroupNumber.parse? h.name = some g.id → h = g)
    (numbered : w.store.inLists = true → ∀ h ∈ w.store.groups, h.id = g.id → h = g)
    (deleted : w.store.deleteGroup g.uuid = .ok ((), t)) :
    (answer site r { w with store := t }).1 = (answer site r w).1 ∧
      ∃ later, (answer site r w).2.store.deleteGroup g.uuid = .ok ((), later) ∧
        (answer site r { w with store := t }).2 =
          { (answer site r w).2 with store := later } := by
  have number : ∀ h ∈ w.store.groups, h.id = g.id → h = g := by
    cases lists : w.store.inLists with
    | true => exact numbered lists
    | false =>
      exact fun h hh same => Store.eq_of_distinct (hs.distinct.rows lists) hh hg same
  have c : Conceals site r w g := fun caller called => by
    obtain ⟨access, run, unseen⟩ := hidden caller called
    rw [run_groupAccess hf] at run
    obtain rfl := Except.ok.inj (Prod.mk.inj run).1
    exact ⟨hs, hg, number, named, unseen⟩
  obtain ⟨there, rfl⟩ := Store.deleteGroup_eq_ok_iff.1 deleted
  have same : answer site r { w with store := w.store.without g.uuid } =
      ((answer site r w).1, (answer site r w).2.without g.uuid) := overlooked_answer hf c
  rw [same]
  exact ⟨rfl, _, Store.deleteGroup_eq_ok_iff.2 ⟨uuid_of_answer there, rfl⟩, rfl⟩

/-- A club of the visitor alone, beside the team of the owner. -/
def visitorsClub : Group :=
  ⟨⟨List.replicate 16 8, rfl⟩, ⟨2⟩, "club", none, ⟨List.replicate 16 8, rfl⟩,
    .ofList [⟨1001⟩], false, 0⟩

def clubWorld : World :=
  { soloWorld with store := .memory ⟨[⟨⟨1000⟩, some "owner", none, none, true, 0⟩, visitor], 1002,
      [soloTeam, visitorsClub], 3, []⟩ }

theorem reachable_clubWorld : clubWorld.store.Reachable :=
  (reachable_soloWorld.write (.createAccount
      (show _ from rfl : Store.createAccount _ ⟨some "visitor", none, none, true, 0⟩ =
        .ok (_, _)))).write
    (.createGroup (show _ from rfl : Store.createGroup _ ⟨List.replicate 16 8, rfl⟩
      ⟨"club", none, none, .ofList [⟨1001⟩], false, 0⟩ = .ok (_, _)))

/-- The visitor adds the owner of the team to the club. -/
def invitation : Request :=
  ⟨"POST", "/groups/club/members", [("X-Account-Id", Text.Utf8.bytes "1001")],
    Text.Utf8.bytes "\"owner\""⟩

/-- The invitation is the same without the team, which the visitor does not see. -/
theorem invitation_without_team :
    (answer (.ofSettings .default) invitation clubWorld).1.status = 200 ∧
      (answer (.ofSettings .default) invitation (clubWorld.without soloTeam.uuid)).1 =
        (answer (.ofSettings .default) invitation clubWorld).1 := by
  refine ⟨by decide +kernel, ?_⟩
  have called : ((callerOf invitation).run clubWorld).1 = .ok (.user visitor) := by decide +kernel
  refine (hidden_group_as_deleted (.ofSettings .default) invitation reachable_clubWorld rfl
    (g := soloTeam) List.mem_cons_self (fun caller h => ?_) (by decide) (by decide) rfl).1
  rw [h] at called
  obtain rfl := Except.ok.inj called
  exact ⟨⟨false, false, false, true⟩, rfl, rfl⟩

/-- The visitor asks for a group by its number. -/
def firstMembers : Request :=
  ⟨"GET", "/groups/1/members", [("X-Account-Id", Text.Utf8.bytes "1001")], []⟩

/-- Where the counter has gone round, the number of the team leads to the club once the team is
deleted, so that the visitor notices the team. -/
theorem team_noticed_by_number :
    roundWorld.store.Reachable ∧ roundWorld.failing = [] ∧ soloTeam ∈ roundWorld.store.groups ∧
      (∀ caller, (callerOf firstMembers).run roundWorld = (.ok caller, roundWorld) →
        ∃ access, (groupAccess .default caller (.stored soloTeam)).run roundWorld =
          (.ok access, roundWorld) ∧ access.isVisible = false) ∧
      (∀ h ∈ roundWorld.store.groups, GroupNumber.parse? h.name = some soloTeam.id →
        h = soloTeam) ∧
      ∃ t, roundWorld.store.deleteGroup soloTeam.uuid = .ok ((), t) ∧
        (answer (.ofSettings .default) firstMembers roundWorld).1.status = 404 ∧
        (answer (.ofSettings .default) firstMembers { roundWorld with store := t }).1.status =
          200 := by
  refine ⟨reachable_roundWorld, rfl, .head _, fun caller called => ?_, by decide,
    _, rfl, by decide +kernel, by decide +kernel⟩
  have named : ((callerOf firstMembers).run roundWorld).1 = .ok (.user visitor) := by
    decide +kernel
  rw [called] at named
  obtain rfl := Except.ok.inj named
  exact ⟨⟨false, false, false, true⟩, rfl, rfl⟩

end CodeReview.Http
