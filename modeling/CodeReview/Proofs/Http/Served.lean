import CodeReview.Proofs.Group.Unreached
import CodeReview.Proofs.Http.Repeated
set_option autoImplicit false

/-!
Errors of the site itself, as answers to requests. In a world that writes of the store and
requests have led to, only a directory that is out of reach makes a request fail with 500, and
only a request that adds members asks it.
-/
namespace CodeReview
open Act

/-- Requests and writes of the store lead to the world, from an empty store of either kind. No
store call fails, and in between the directory and the clock may become anything. -/
inductive World.Served : World → Prop where
  | memory (d : Directory) (now : Int64) : Served ⟨.memory .empty, [], d, now, false⟩
  | tables (d : Directory) (now : Int64) : Served ⟨.tables .empty, [], d, now, false⟩
  | write {w : World} {t : Store} (h : Served w) (written : w.store.Write t) :
    Served { w with store := t }
  | request {w : World} (h : Served w) (site : Site) (r : Http.Request) :
    Served (Http.answer site r w).2
  | meanwhile {w : World} (h : Served w) (d : Directory) (now : Int64) :
    Served { w with directory := d, now := now }

namespace Http

theorem orderly_callerOf (r : Request) : Orderly (callerOf r) := by
  unfold callerOf
  split
  · exact .pure _
  · split
    · exact orderly_identify _
    · exact .fail (by decide)

theorem orderly_readChange (site : Site) (r : Request) (implied : OptionSet) (id : String) :
    Orderly (readChange site r implied id) := by
  have query : Orderly (Act.ofExcept (ChangeQuery.ofPairs (Text.Percent.pairs r.query))) :=
    .ofExcept fun e failed => by
      rw [kind_of_ofPairs failed]
      decide
  exact query.bind fun q => (orderly_parseChange id).bind fun n =>
    (orderly_reportChange _ _ _ n q.pin).bind fun _ => .pure _

theorem orderly_readMembers (site : Site) (r : Request) (group : String) :
    Orderly (readMembers site r group) :=
  (orderly_callerOf r).bind fun _ => (orderly_openGroup _ _ _).bind fun o =>
    (orderly_listMembers o).bind fun _ => .pure _

theorem orderly_readMember (site : Site) (r : Request) (group member : String) :
    Orderly (readMember site r group member) := by
  refine (orderly_callerOf r).bind fun _ => (orderly_openGroup _ _ _).bind fun o =>
    (orderly_findMember _ _ o member).bind fun found => ?_
  cases found with
  | some s => exact .pure _
  | none => exact .fail (by simp [ApiError.resourceMissing])

section
variable {site : Site} {r : Request} {w : World} {group : String}

/-- A caller has opened a group to which it may add members, and the directory is out of reach for
one of the tokens. -/
def StopsIn (site : Site) (r : Request) (group : String) (tokens : List String) (w : World) :
    Prop :=
  ∃ caller o, (callerOf r).run w = (.ok caller, w) ∧
    (openGroup site.settings caller group).run w = (.ok o, w) ∧ o.access.canAddMember = true ∧
    Stops site.settings caller w tokens

theorem breaks_postMembers_iff (h : w.Intact) :
    Breaks (postMembers site r group) w ↔
      ∃ tokens, MembersInput.parse r.body = .ok tokens ∧ StopsIn site r group tokens w := by
  have body : Orderly (Act.ofExcept (MembersInput.parse r.body)) := .ofExcept fun e failed => by
    rw [kind_of_parse failed]
    decide
  rw [postMembers, (orderly_callerOf r).breaks_bind h]
  constructor
  · rintro ⟨caller, called, broken⟩
    obtain ⟨tokens, parsed, broken⟩ := (body.breaks_bind h).1 broken
    obtain ⟨o, opened, broken⟩ := ((orderly_openGroup _ _ _).breaks_bind h).1 broken
    obtain ⟨can, stops⟩ := (breaks_addMembers_opened h opened).1 (breaks_bind_pure_iff.1 broken)
    exact ⟨tokens, (Prod.mk.inj parsed).1, caller, o, called, opened, can, stops⟩
  · rintro ⟨tokens, parsed, caller, o, called, opened, can, stops⟩
    refine ⟨caller, called, (body.breaks_bind h).2 ⟨tokens, by rw [parsed, run_ofExcept],
      ((orderly_openGroup _ _ _).breaks_bind h).2 ⟨o, opened, breaks_bind_pure_iff.2 ?_⟩⟩⟩
    exact (breaks_addMembers_opened h opened).2 ⟨can, stops⟩

theorem breaks_writeMember_iff (h : w.Intact) {member : String} :
    Breaks (writeMember site r group member) w ↔ StopsIn site r group [member] w := by
  rw [writeMember, (orderly_callerOf r).breaks_bind h]
  constructor
  · rintro ⟨caller, called, broken⟩
    obtain ⟨o, opened, broken⟩ := ((orderly_openGroup _ _ _).breaks_bind h).1 broken
    obtain ⟨can, stops⟩ := (breaks_putMember_opened h opened).1 (breaks_bind_pure_iff.1 broken)
    exact ⟨caller, o, called, opened, can, stops⟩
  · rintro ⟨caller, o, called, opened, can, stops⟩
    refine ⟨caller, called, ((orderly_openGroup _ _ _).breaks_bind h).2
      ⟨o, opened, breaks_bind_pure_iff.2 ?_⟩⟩
    exact (breaks_putMember_opened h opened).2 ⟨can, stops⟩

theorem status_eq_500_iff (e : ApiError) : e.status = 500 ↔ e.kind = .internalError := by
  show e.kind.status = 500 ↔ _
  cases e.kind <;> decide

/-- Where the action succeeds, the answer is no error of the site. -/
def Serves (x : Act ApiError Response) : Prop :=
  ∀ w response v, x.run w = (.ok response, v) → response.status ≠ 500

theorem Serves.bind {α : Type} {x : Act ApiError α} {f : α → Act ApiError Response}
    (h : ∀ a, Serves (f a)) : Serves (x >>= f) := by
  intro w response v ended
  obtain ⟨a, u, -, ended⟩ := run_bind_eq_ok.1 ended
  exact h a u response v ended

theorem Serves.pure {response : Response} (h : response.status ≠ 500) :
    Serves (Pure.pure response) := by
  intro w _ v ended
  cases ended
  exact h

theorem Serves.fail (e : ApiError) : Serves (Act.fail e) := by
  intro w _ v ended
  cases ended

theorem serves_readChange (site : Site) (r : Request) (implied : OptionSet) (id : String) :
    Serves (readChange site r implied id) := by
  refine .bind fun q => .bind fun n => .bind fun report => .pure ?_
  unfold taggedResponse
  dsimp only
  split <;> simp

theorem serves_readMembers (site : Site) (r : Request) (group : String) :
    Serves (readMembers site r group) :=
  .bind fun _ => .bind fun _ => .bind fun _ => .pure (by simp [Response.json])

theorem serves_postMembers (site : Site) (r : Request) (group : String) :
    Serves (postMembers site r group) :=
  .bind fun _ => .bind fun _ => .bind fun _ => .bind fun _ => .pure (by simp [Response.json])

theorem serves_readMember (site : Site) (r : Request) (group member : String) :
    Serves (readMember site r group member) := by
  refine .bind fun _ => .bind fun _ => .bind fun found => ?_
  cases found with
  | some s => exact .pure (by simp [Response.json])
  | none => exact .fail _

theorem serves_writeMember (site : Site) (r : Request) (group member : String) :
    Serves (writeMember site r group member) := by
  refine .bind fun _ => .bind fun _ => .bind fun out => .pure ?_
  cases out <;> simp [putMemberResponse, Response.json]

theorem status_respond_iff {x : Act ApiError Response} (serves : Serves x) :
    (respond x w).1.status = 500 ↔ Breaks x w := by
  cases run : x.run w with
  | mk result v =>
    cases result with
    | ok response =>
      rw [respond_of_ok run]
      exact iff_of_false (serves w response v run) (not_breaks_of_ok (congrArg Prod.fst run))
    | error e =>
      rw [respond_of_error run]
      have failed : (x.run w).1 = .error e := congrArg Prod.fst run
      show e.status = 500 ↔ _
      rw [status_eq_500_iff]
      constructor
      · exact fun internal => ⟨e, failed, internal⟩
      · rintro ⟨d, same, internal⟩
        rw [failed] at same
        cases same
        exact internal

theorem status_withSegment_iff {name : String} {cs : List Char}
    {f : String → StateM World Response} :
    (withSegment name cs f w).1.status = 500 ↔
      ∃ text, Text.Percent.segment? cs = some text ∧ (f (String.ofList text) w).1.status = 500 := by
  rw [withSegment]
  cases Text.Percent.segment? cs with
  | some text => simp
  | none =>
    have status : ((pure (invalidSegment name) : StateM World Response) w).1.status = 400 := rfl
    exact iff_of_false (fun failed => absurd (status.symm.trans failed) (by decide)) (by simp)

/-- The answer is no error of the site, and the world stays as it is. -/
def Harmless (m : StateM World Response) (w : World) : Prop :=
  (m w).1.status ≠ 500 ∧ (m w).2 = w

theorem harmless_respond {x : Act ApiError Response} (h : w.Intact) (orderly : Orderly x)
    (serves : Serves x) : Harmless (respond x) w := by
  refine ⟨fun failed => orderly.never w h ((status_respond_iff serves).1 failed), ?_⟩
  obtain ⟨result, run⟩ := respond_eq (Prod.eta (respond x w)).symm
  exact orderly.reads.world_eq run

theorem harmless_withSegment {name : String} {cs : List Char} {f : String → StateM World Response}
    (h : ∀ text, Harmless (f text) w) : Harmless (withSegment name cs f) w := by
  refine ⟨fun failed => ?_, ?_⟩
  · obtain ⟨text, -, failed⟩ := status_withSegment_iff.1 failed
    exact (h _).1 failed
  · rcases withSegment_cases (Prod.eta (withSegment name cs f w)).symm with same | ⟨text, -, run⟩
    · exact same
    · exact (congrArg Prod.snd run).symm.trans (h _).2

theorem harmless_answerRoute (h : w.Intact) (reads : ∀ id, ¬WritesTo r id) {route : Route}
    (path : Route.ofPath r.path = some route) (taken : r.method ∈ route.methods) :
    Harmless (answerRoute site r route) w := by
  cases route with
  | change id =>
    exact harmless_withSegment fun text =>
      harmless_respond h (orderly_readChange _ _ _ _) (serves_readChange _ _ _ _)
  | changeDetail id =>
    exact harmless_withSegment fun text =>
      harmless_respond h (orderly_readChange _ _ _ _) (serves_readChange _ _ _ _)
  | members id =>
    have post : r.method ≠ "POST" := fun method => reads id (.members path method)
    refine harmless_withSegment fun text => ?_
    rw [if_neg post]
    exact harmless_respond h (orderly_readMembers _ _ _) (serves_readMembers _ _ _)
  | addMembers id =>
    exact absurd (.addMembers path (by simpa [Route.methods] using taken)) (reads id)
  | member id who =>
    have put : r.method ≠ "PUT" := fun method => reads id (.member path method)
    refine harmless_withSegment fun text => harmless_withSegment fun member => ?_
    rw [if_neg put]
    exact harmless_respond h (orderly_readMember _ _ _ _) (serves_readMember _ _ _ _)

/-- A request that adds no members does no harm. -/
theorem answer_harmless (h : w.Intact) (reads : ∀ id, ¬WritesTo r id) :
    Harmless (answer site r) w := by
  rcases answer_cases site r with
    ⟨response, harmless, answers⟩ | ⟨route, f, path, taken, same, answers⟩
  · rw [Harmless, answers]
    exact ⟨harmless, rfl⟩
  · rw [Harmless, answers, same]
    exact harmless_answerRoute h reads path taken

theorem continues_of_postMembers {result : Except ApiError Response} {v : World}
    (h : (postMembers site r group).run w = (result, v)) : w.Continues v := by
  obtain rfl | ⟨caller, -, h⟩ := (reads_callerOf r).bind_cases h
  · exact .refl v
  obtain rfl | ⟨tokens, -, h⟩ := (Reads.ofExcept _).bind_cases h
  · exact .refl v
  obtain rfl | ⟨o, -, h⟩ := (reads_openGroup _ _ _).bind_cases h
  · exact .refl v
  obtain ⟨q, added⟩ := Reads.run_of_bind (fun _ => Reads.pure _) h
  exact continues_of_addMembers added

theorem continues_of_writeMember {member : String} {result : Except ApiError Response} {v : World}
    (h : (writeMember site r group member).run w = (result, v)) : w.Continues v := by
  obtain rfl | ⟨caller, -, h⟩ := (reads_callerOf r).bind_cases h
  · exact .refl v
  obtain rfl | ⟨o, -, h⟩ := (reads_openGroup _ _ _).bind_cases h
  · exact .refl v
  obtain ⟨q, put⟩ := Reads.run_of_bind (fun _ => Reads.pure _) h
  obtain rfl | ⟨_, added⟩ := putMember_cases put
  · exact .refl v
  · exact continues_of_addMembers added

theorem WritesTo.continues {id : List Char} (writes : WritesTo r id) :
    w.Continues (answer site r w).2 := by
  rcases writes.answer_cases site with ⟨-, answers⟩ | ⟨who, -, answers⟩
  · rw [answers]
    obtain same | ⟨text, -, k⟩ := withSegment_cases (Prod.eta _).symm
    · rw [same]
      exact .refl w
    obtain same | k := withBody_cases k
    · rw [same]
      exact .refl w
    · obtain ⟨_, run⟩ := respond_eq k
      exact continues_of_postMembers run
  · rw [answers]
    obtain same | ⟨text, -, k⟩ := withSegment_cases (Prod.eta _).symm
    · rw [same]
      exact .refl w
    obtain same | ⟨member, -, k⟩ := withSegment_cases k
    · rw [same]
      exact .refl w
    · obtain ⟨_, run⟩ := respond_eq k
      exact continues_of_writeMember run

theorem continues_of_answer (h : w.Intact) : w.Continues (answer site r w).2 := by
  by_cases writes : ∃ id, WritesTo r id
  · obtain ⟨id, writes⟩ := writes
    exact writes.continues
  · rw [(answer_harmless h (not_exists.1 writes)).2]
    exact .refl w

theorem not_stopsIn_nil : ¬StopsIn site r group [] w := by
  rintro ⟨caller, o, -, -, -, stops⟩
  cases stops

/-- A batch fails with the members that its body names, unless its body is too long. -/
theorem status_withBody_iff (h : w.Intact) (batched : Batched r) :
    (withBody r (respond (postMembers site r group)) w).1.status = 500 ↔
      StopsIn site r group (memberTokens r) w := by
  obtain long | fits := Nat.lt_or_ge bodyLimit r.body.length
  · rw [withBody_of_lt long, memberTokens_of_long batched long]
    have status : ((pure bodyTooLong : StateM World Response) w).1.status = 413 := rfl
    exact iff_of_false (fun failed => absurd (status.symm.trans failed) (by decide)) not_stopsIn_nil
  · rw [withBody_of_le fits, memberTokens_of_batched batched fits,
      status_respond_iff (serves_postMembers _ _ _), breaks_postMembers_iff h]
    cases MembersInput.parse r.body with
    | error e => exact iff_of_false (by simp) not_stopsIn_nil
    | ok tokens => simp

/-- A request that adds members fails just where they are out of reach. -/
theorem WritesTo.status_iff {id : List Char} (writes : WritesTo r id) (h : w.Intact) :
    (answer site r w).1.status = 500 ↔ ∃ text, Text.Percent.segment? id = some text ∧
      StopsIn site r (String.ofList text) (memberTokens r) w := by
  rcases writes.answer_cases site with ⟨batched, answers⟩ | ⟨who, named, answers⟩
  · rw [answers, status_withSegment_iff]
    exact exists_congr fun text => and_congr_right fun _ => status_withBody_iff h batched
  · rw [answers, status_withSegment_iff, named]
    refine exists_congr fun text => and_congr_right fun _ => ?_
    rw [status_withSegment_iff]
    cases Text.Percent.segment? who with
    | none => exact iff_of_false (by simp) not_stopsIn_nil
    | some member =>
      simp only [Option.some.injEq, exists_eq_left', Option.map_some, Option.toList_some]
      rw [status_respond_iff (serves_writeMember _ _ _ _), breaks_writeMember_iff h]

/-- The request adds members on behalf of a caller who may add them, and the directory is out of
reach for one of the members. -/
def Strands (site : Site) (r : Request) (w : World) : Prop :=
  ∃ id text, WritesTo r id ∧ Text.Percent.segment? id = some text ∧
    StopsIn site r (String.ofList text) (memberTokens r) w

end

end Http

open Http

/-- What requests and writes of the store lead to is intact. -/
theorem World.Served.intact {w : World} (h : w.Served) : w.Intact := by
  induction h with
  | memory d now => exact ⟨.memory, rfl, rfl⟩
  | tables d now => exact ⟨.tables, rfl, rfl⟩
  | write _ written ih => exact ⟨ih.reachable.write written, ih.works, ih.writable⟩
  | request _ site r ih => exact (continues_of_answer ih).intact ih
  | meanwhile _ d now ih => exact ⟨ih.reachable, ih.works, ih.writable⟩

/-- A request fails with 500 just where the directory is out of reach for a member that it is to
add. All other requests are answered with another status. -/
theorem answer_fails_iff_strands (site : Site) (r : Request) {w : World} (h : w.Served) :
    (answer site r w).1.status = 500 ↔ Strands site r w := by
  constructor
  · intro failed
    obtain ⟨id, writes⟩ : ∃ id, WritesTo r id := by
      by_contra reads
      exact (answer_harmless h.intact (not_exists.1 reads)).1 failed
    obtain ⟨text, segment, stops⟩ := (writes.status_iff h.intact).1 failed
    exact ⟨id, text, writes, segment, stops⟩
  · rintro ⟨id, text, writes, segment, stops⟩
    exact (writes.status_iff h.intact).2 ⟨text, segment, stops⟩

/-- The team, with a directory that is out of reach for the guest. -/
def cutOff : World :=
  { soloWorld with
    directory := .scripted ⟨[("guest", [.error (.transport "no route")])], [], [], []⟩ }

theorem served_soloWorld : soloWorld.Served :=
  .write (t := soloWorld.store) (.write (.memory soloWorld.directory 0) (.createAccount
      (show _ from rfl : Store.createAccount _ ⟨some "owner", none, none, true, 0⟩ = .ok (_, _))))
    (.createGroup (show _ from rfl : Store.createGroup _ ⟨List.replicate 16 7, rfl⟩
      ⟨"team", none, none, .ofList [⟨1000⟩], false, 0⟩ = .ok (_, _)))

/-- The guest cannot be added while the directory is out of reach, and can be added otherwise. -/
theorem guest_stranded :
    Strands (siteShowing .all) guestRequest cutOff ∧
      (answer (siteShowing .all) guestRequest soloWorld).1.status = 200 ∧
      ¬Strands (siteShowing .all) guestRequest soloWorld := by
  have answered : (answer (siteShowing .all) guestRequest soloWorld).1.status = 200 := by
    decide +kernel
  refine ⟨(answer_fails_iff_strands _ _ (served_soloWorld.meanwhile cutOff.directory 0)).1
    (by decide +kernel), answered, fun stranded => ?_⟩
  have failed := (answer_fails_iff_strands _ _ served_soloWorld).2 stranded
  rw [answered] at failed
  cases failed

end CodeReview
