import CodeReview.Http.Service
import CodeReview.Proofs.Change.Reading
import CodeReview.Proofs.Group.Membership
set_option autoImplicit false

/-!
What requests do to the store. Only a POST or PUT for the members of a group can change it, and
only on behalf of an active account that owns the group. All others leave the store as it was,
whatever the directory answers and whichever store calls fail.
-/
namespace CodeReview.Http
open Act

theorem ungrouped_callerOf (r : Request) : Ungrouped (callerOf r) := by
  unfold callerOf
  split
  · exact .pure _
  · split
    · exact ungrouped_identify _
    · exact .fail _

theorem reads_callerOf (r : Request) : Reads (callerOf r) :=
  (ungrouped_callerOf r).reads

theorem ungrouped_readChange (site : Site) (r : Request) (implied : OptionSet) (id : String) :
    Ungrouped (readChange site r implied id) :=
  (Ungrouped.ofExcept _).bind fun _ => (ungrouped_parseChange _).bind fun _ =>
    (ungrouped_reportChange _ _ _ _ _).bind fun _ => .pure _

theorem reads_readMembers (site : Site) (r : Request) (group : String) :
    Reads (readMembers site r group) :=
  (reads_callerOf r).bind fun _ => (reads_openGroup _ _ _).bind fun _ =>
    (reads_listMembers _).bind fun _ => Reads.pure _

theorem reads_readMember (site : Site) (r : Request) (group member : String) :
    Reads (readMember site r group member) := by
  refine (reads_callerOf r).bind fun _ => (reads_openGroup _ _ _).bind fun _ =>
    (reads_findMember _ _ _ _).bind fun found => ?_
  cases found with
  | some s => exact Reads.pure _
  | none => exact Reads.fail _

/-- An account that a request names and that owns the group of a text. -/
structure Editor (site : Site) (r : Request) (w : World) (group : String) (viewer : Account)
    (g : Group) : Prop where
  header : ∃ value text, r.header? "X-Account-Id" = some value ∧ headerText? value = some text ∧
    AccountId.parse? (Text.trim text) = some viewer.id
  known : w.store.getAccount viewer.id = .ok viewer
  active : viewer.active = true
  named : (findGroupReference group).run w = (.ok (some (.stored g)), w)
  owner : MayOwn site.settings w.store viewer.id g

section
variable {site : Site} {r : Request} {w w' : World} {group : String}

theorem callerOf_eq_user {a : Account} (h : (callerOf r).run w = (.ok (.user a), w')) :
    (∃ value text, r.header? "X-Account-Id" = some value ∧ headerText? value = some text ∧
        AccountId.parse? (Text.trim text) = some a.id) ∧
      w.store.getAccount a.id = .ok a ∧ a.active = true := by
  unfold callerOf at h
  split at h
  · cases h
  · next value hv =>
    split at h
    · next id hid =>
      obtain ⟨text, ht, hp⟩ := Option.bind_eq_some_iff.1 hid
      obtain ⟨b, hb, known, active, -⟩ := identify_eq_ok h
      cases hb
      obtain rfl := (Store.mem_of_getAccount known).2
      exact ⟨⟨value, text, hv, ht, hp⟩, known, active⟩
    · cases h

theorem mem_of_callerOf {caller : Caller} (h : (callerOf r).run w = (.ok caller, w')) :
    ∀ a, caller = .user a → a ∈ w.store.accounts := by
  rintro a rfl
  exact (Store.mem_of_getAccount (callerOf_eq_user h).2.1).1

theorem editor_of_openGroup {caller : Caller} {o : OpenGroup} {g : Group}
    (hc : (callerOf r).run w = (.ok caller, w))
    (ho : (openGroup site.settings caller group).run w = (.ok o, w)) (hg : o.group = .stored g)
    (can : o.access.canAddMember = true) : ∃ viewer, Editor site r w group viewer g := by
  obtain ⟨-, named, access⟩ := openGroup_eq_ok ho
  rw [hg] at named access
  obtain ⟨id, hid, owner⟩ := mayOwn_of_canAddMember (mem_of_findGroupReference named) access can
  cases caller with
  | anonymous => simp [Caller.accountId?] at hid
  | user a =>
    cases hid
    obtain ⟨header, known, active⟩ := callerOf_eq_user hc
    exact ⟨a, header, known, active, named, owner⟩

/-- The store stays, or an editor of the group of a text has added members to it. -/
def Edits (site : Site) (r : Request) (w : World) (group : String) (t : Store) : Prop :=
  t = w.store ∨ ∃ viewer g ids created, Editor site r w group viewer g ∧
    w.store.Joined g ids created t

theorem edits_of_addMembers {caller : Caller} {o : OpenGroup} {tokens : List String}
    {result : Except ApiError (List AccountSummary)}
    (hc : (callerOf r).run w = (.ok caller, w))
    (ho : (openGroup site.settings caller group).run w = (.ok o, w))
    (h : (addMembers site.settings caller o tokens).run w = (result, w')) :
    Edits site r w group w'.store := by
  obtain rfl | ⟨g, ids, created, hg, can, joined⟩ := joined_of_addMembers (mem_of_callerOf hc) h
  · exact .inl rfl
  · obtain ⟨viewer, editor⟩ := editor_of_openGroup hc ho hg can
    exact .inr ⟨viewer, g, ids, created, editor, joined⟩

theorem edits_of_postMembers {result : Except ApiError Response}
    (h : (postMembers site r group).run w = (result, w')) : Edits site r w group w'.store := by
  obtain rfl | ⟨caller, hc, h⟩ := (reads_callerOf r).bind_cases h
  · exact .inl rfl
  obtain rfl | ⟨tokens, -, h⟩ := (Reads.ofExcept _).bind_cases h
  · exact .inl rfl
  obtain rfl | ⟨o, ho, h⟩ := (reads_openGroup _ _ _).bind_cases h
  · exact .inl rfl
  obtain ⟨q, ha⟩ := Reads.run_of_bind (fun _ => Reads.pure _) h
  exact edits_of_addMembers hc ho ha

theorem edits_of_writeMember {member : String} {result : Except ApiError Response}
    (h : (writeMember site r group member).run w = (result, w')) :
    Edits site r w group w'.store := by
  obtain rfl | ⟨caller, hc, h⟩ := (reads_callerOf r).bind_cases h
  · exact .inl rfl
  obtain rfl | ⟨o, ho, h⟩ := (reads_openGroup _ _ _).bind_cases h
  · exact .inl rfl
  obtain ⟨q, hp⟩ := Reads.run_of_bind (fun _ => Reads.pure _) h
  obtain rfl | ⟨_, ha⟩ := putMember_cases hp
  · exact .inl rfl
  · exact edits_of_addMembers hc ho ha

/-- The request is a POST or PUT for the members of the group of a part of its path. -/
inductive WritesTo (r : Request) : List Char → Prop where
  | members {id : List Char} (path : Route.ofPath r.path = some (.members id))
    (method : r.method = "POST") : WritesTo r id
  | addMembers {id : List Char} (path : Route.ofPath r.path = some (.addMembers id))
    (method : r.method = "POST") : WritesTo r id
  | member {id who : List Char} (path : Route.ofPath r.path = some (.member id who))
    (method : r.method = "PUT") : WritesTo r id

theorem respond_eq {x : Act ApiError Response} {response : Response}
    (h : respond x w = (response, w')) : ∃ result, x.run w = (result, w') := by
  refine ⟨(x.run w).1, Prod.ext rfl ?_⟩
  have after : (respond x w).2 = (x.run w).2 := by
    simp only [respond, bind, StateT.bind]
    cases hx : x.run w with
    | mk q v =>
      rw [show ExceptT.run x w = (q, v) from hx]
      cases q <;> rfl
  rw [← after, h]

theorem store_of_respond {x : Act ApiError Response} {response : Response} (hx : Reads x)
    (h : respond x w = (response, w')) : w'.store = w.store := by
  obtain ⟨_, k⟩ := respond_eq h
  rw [hx.world_eq k]

theorem withSegment_cases {name : String} {cs : List Char} {f : String → StateM World Response}
    {response : Response} (h : withSegment name cs f w = (response, w')) :
    w' = w ∨ ∃ text, Text.Percent.segment? cs = some text ∧
      f (String.ofList text) w = (response, w') := by
  rw [withSegment] at h
  cases ht : Text.Percent.segment? cs with
  | some text =>
    rw [ht] at h
    exact .inr ⟨text, rfl, h⟩
  | none =>
    rw [ht] at h
    cases h
    exact .inl rfl

theorem withBody_of_le {m : StateM World Response} (fits : r.body.length ≤ bodyLimit) :
    withBody r m = m :=
  if_neg (Nat.not_lt.2 fits)

theorem withBody_of_lt {m : StateM World Response} (long : bodyLimit < r.body.length) :
    withBody r m = pure bodyTooLong :=
  if_pos long

theorem withBody_cases {m : StateM World Response} {response : Response}
    (h : withBody r m w = (response, w')) : w' = w ∨ m w = (response, w') := by
  obtain long | fits := Nat.lt_or_ge bodyLimit r.body.length
  · rw [withBody_of_lt long] at h
    cases h
    exact .inl rfl
  · rw [withBody_of_le fits] at h
    exact .inr h

/-- The store stays, or the request writes to a group and an editor has added members to it. -/
def Rightful (site : Site) (r : Request) (w : World) (t : Store) : Prop :=
  t = w.store ∨ ∃ id text viewer g ids created, WritesTo r id ∧
    Text.Percent.segment? id = some text ∧ Editor site r w (String.ofList text) viewer g ∧
    w.store.Joined g ids created t

theorem Edits.rightful {id text : List Char} {t : Store} (writes : WritesTo r id)
    (segment : Text.Percent.segment? id = some text)
    (h : Edits site r w (String.ofList text) t) : Rightful site r w t := by
  obtain rfl | ⟨viewer, g, ids, created, editor, joined⟩ := h
  · exact .inl rfl
  · exact .inr ⟨id, text, viewer, g, ids, created, writes, segment, editor, joined⟩

theorem rightful_of_answerRoute {route : Route} {response : Response}
    (path : Route.ofPath r.path = some route) (method : r.method ∈ route.methods)
    (h : answerRoute site r route w = (response, w')) : Rightful site r w w'.store := by
  cases route with
  | change id =>
    rw [answerRoute] at h
    obtain rfl | ⟨text, -, k⟩ := withSegment_cases h
    · exact .inl rfl
    · exact .inl (store_of_respond (ungrouped_readChange _ _ _ _).reads k)
  | changeDetail id =>
    rw [answerRoute] at h
    obtain rfl | ⟨text, -, k⟩ := withSegment_cases h
    · exact .inl rfl
    · exact .inl (store_of_respond (ungrouped_readChange _ _ _ _).reads k)
  | members id =>
    rw [answerRoute] at h
    obtain rfl | ⟨text, ht, k⟩ := withSegment_cases h
    · exact .inl rfl
    split at k
    · next post =>
      obtain rfl | k := withBody_cases k
      · exact .inl rfl
      obtain ⟨_, k⟩ := respond_eq k
      exact (edits_of_postMembers k).rightful (.members path post) ht
    · exact .inl (store_of_respond (reads_readMembers _ _ _) k)
  | addMembers id =>
    rw [answerRoute] at h
    obtain rfl | ⟨text, ht, k⟩ := withSegment_cases h
    · exact .inl rfl
    obtain rfl | k := withBody_cases k
    · exact .inl rfl
    obtain ⟨_, k⟩ := respond_eq k
    have post : r.method = "POST" := by simpa [Route.methods] using method
    exact (edits_of_postMembers k).rightful (.addMembers path post) ht
  | member id who =>
    rw [answerRoute] at h
    obtain rfl | ⟨text, ht, k⟩ := withSegment_cases h
    · exact .inl rfl
    obtain rfl | ⟨member, -, k⟩ := withSegment_cases k
    · exact .inl rfl
    split at k
    · next put =>
      obtain ⟨_, k⟩ := respond_eq k
      exact (edits_of_writeMember k).rightful (.member path put) ht
    · exact .inl (store_of_respond (reads_readMember _ _ _ _) k)

/-- A request is answered without the store and without harm, or by its route but for the body. -/
theorem answer_cases (site : Site) (r : Request) :
    (∃ response, response.status ≠ 500 ∧ ∀ w, answer site r w = (response, w)) ∨
      ∃ (route : Route) (f : Response → Response), Route.ofPath r.path = some route ∧
        r.method ∈ route.methods ∧ (∀ response, (f response).status = response.status) ∧
        ∀ w, answer site r w =
          (f (answerRoute site r route w).1, (answerRoute site r route w).2) := by
  unfold answer
  cases path : Route.ofPath r.path with
  | none =>
    refine .inl ⟨_, ?_, fun w => rfl⟩
    show (if r.method = "OPTIONS" then 200 else 404) ≠ 500
    split <;> decide
  | some route =>
    dsimp only
    split
    · exact .inl ⟨_, show 200 ≠ 500 by decide, fun w => rfl⟩
    · split
      · exact .inl ⟨_, show 405 ≠ 500 by decide, fun w => rfl⟩
      · next method =>
        refine .inr ⟨route, fun a => if r.method = "HEAD" then a.withoutBody else a, rfl,
          not_not.1 method, fun response => ?_, fun w => rfl⟩
        dsimp only
        split <;> rfl

/-- A request with a method of its route is answered as the route answers. -/
theorem answer_of_route {route : Route} {method : String}
    (path : Route.ofPath r.path = some route) (same : r.method = method)
    (taken : method ∈ route.methods) (whole : method ≠ "OPTIONS" ∧ method ≠ "HEAD") :
    answer site r w = answerRoute site r route w := by
  subst same
  unfold answer
  rw [path]
  dsimp only
  rw [if_neg whole.1, if_neg (not_not.2 taken)]
  simp only [if_neg whole.2, bind_pure]

theorem answer_get {part text : List Char} (method : r.method = "GET")
    (path : Route.ofPath r.path = some (.change part))
    (segment : Text.Percent.segment? part = some text) :
    answer site r w = respond (readChange site r .empty (String.ofList text)) w := by
  rw [answer_of_route path method List.mem_cons_self (by decide), answerRoute, withSegment, segment]

theorem answer_post {part text : List Char} (method : r.method = "POST")
    (path : Route.ofPath r.path = some (.members part))
    (segment : Text.Percent.segment? part = some text) (fits : r.body.length ≤ bodyLimit) :
    answer site r w = respond (postMembers site r (String.ofList text)) w := by
  rw [answer_of_route path method (by simp [Route.methods]) (by decide), answerRoute, withSegment,
    segment]
  dsimp only
  rw [if_pos method, withBody_of_le fits]

/-- Members in a body beyond the limit are not read, and nothing is done. -/
theorem answer_post_too_long {part text : List Char} (method : r.method = "POST")
    (path : Route.ofPath r.path = some (.members part))
    (segment : Text.Percent.segment? part = some text) (long : bodyLimit < r.body.length) :
    answer site r w = (bodyTooLong, w) := by
  rw [answer_of_route path method (by simp [Route.methods]) (by decide), answerRoute, withSegment,
    segment]
  dsimp only
  rw [if_pos method, withBody_of_lt long]
  rfl

end

/-- A request changes the store only on behalf of an account that owns the group it writes to. -/
theorem answer_rightful (site : Site) (r : Request) (w : World) :
    Rightful site r w (answer site r w).2.store := by
  cases path : Route.ofPath r.path with
  | none =>
    rw [answer, path]
    exact .inl rfl
  | some route =>
    rw [answer, path]
    dsimp only
    split
    · exact .inl rfl
    · split
      · exact .inl rfl
      · next method => exact rightful_of_answerRoute path (not_not.1 method) rfl

end CodeReview.Http
