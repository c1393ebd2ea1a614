import CodeReview.Proofs.Group.Repeated
import CodeReview.Proofs.Http.Service
set_option autoImplicit false

/-!
Sending a request that adds members once more. The caller is known as before, the tokens are read
from the same request, and adding the same members again changes nothing.
-/
namespace CodeReview.Http
open Act

/-- What the path and the body of a writing request give as the members to add. -/
def memberTokens (r : Request) : List String :=
  match Route.ofPath r.path with
  | some (.member _ who) => ((Text.Percent.segment? who).map String.ofList).toList
  | _ =>
    if bodyLimit < r.body.length then []
    else
      match MembersInput.parse r.body with
      | .ok tokens => tokens
      | .error _ => []

section
variable {site : Site} {r : Request} {caller : Caller} {group : String} {w w' x : World}
  {response : Response}

theorem status_ofError (e : ApiError) : (Response.ofError e).status / 100 ≠ 2 := by
  show e.kind.status / 100 ≠ 2
  cases e.kind <;> decide

theorem respond_of_ok {y : Act ApiError Response} (h : y.run w = (.ok response, w')) :
    respond y w = (response, w') := by
  simp only [respond, bind, StateT.bind]
  rw [show ExceptT.run y w = (.ok response, w') from h]
  rfl

theorem respond_of_error {y : Act ApiError Response} {e : ApiError}
    (h : y.run w = (.error e, w')) : respond y w = (.ofError e, w') := by
  simp only [respond, bind, StateT.bind]
  rw [show ExceptT.run y w = (.error e, w') from h]
  rfl

theorem respond_eq_success {y : Act ApiError Response} (h : respond y w = (response, w'))
    (success : response.status / 100 = 2) : y.run w = (.ok response, w') := by
  simp only [respond, bind, StateT.bind] at h
  cases result : y.run w with
  | mk q v =>
    rw [show ExceptT.run y w = (q, v) from result] at h
    cases q with
    | ok response =>
      cases h
      rfl
    | error e =>
      cases h
      exact absurd success (status_ofError e)

theorem withSegment_eq_success {name : String} {cs : List Char}
    {f : String → StateM World Response} (h : withSegment name cs f w = (response, w'))
    (success : response.status / 100 = 2) :
    ∃ text, Text.Percent.segment? cs = some text ∧ f (String.ofList text) w = (response, w') := by
  rw [withSegment] at h
  cases found : Text.Percent.segment? cs with
  | some text =>
    rw [found] at h
    exact ⟨text, rfl, h⟩
  | none =>
    rw [found] at h
    cases h
    simp [invalidSegment] at success

theorem withBody_eq_success {m : StateM World Response} (h : withBody r m w = (response, w'))
    (success : response.status / 100 = 2) :
    r.body.length ≤ bodyLimit ∧ m w = (response, w') := by
  obtain long | fits := Nat.lt_or_ge bodyLimit r.body.length
  · rw [withBody_of_lt long] at h
    cases h
    simp [bodyTooLong] at success
  · rw [withBody_of_le fits] at h
    exact ⟨fits, h⟩

theorem stored_of_run {o : OpenGroup} {g : Group}
    (h : (Act.ofExcept o.stored).run w = (.ok g, w')) : ∃ access, o = ⟨.stored g, access⟩ := by
  obtain ⟨group, access⟩ := o
  cases group with
  | external id name => cases h
  | stored g =>
    cases h
    exact ⟨access, rfl⟩

theorem callerOf_again (past : w.Past x) (h : (callerOf r).run w = (.ok caller, w)) :
    (callerOf r).run x = (.ok caller, x) := by
  unfold callerOf at h ⊢
  split at h
  · cases h
    rfl
  · split at h
    · next id _ =>
      obtain ⟨a, rfl, known, active, -⟩ := identify_eq_ok h
      obtain ⟨created, accounts⟩ := past.accounts
      have still : x.store.getAccount id = .ok a := by
        rw [Store.getAccount_eq_ok] at known ⊢
        rw [accounts, List.find?_append, known, Option.some_or]
      rw [identify, run_bind, run_outcome, Act.getAccount, run_read_of_works past.works.2, still]
      dsimp only
      rw [if_pos active]
      rfl
    · cases h

theorem postMembers_eq_ok :
    (postMembers site r group).run w = (.ok response, w') ↔
      ∃ caller tokens o infos, (callerOf r).run w = (.ok caller, w) ∧
        MembersInput.parse r.body = .ok tokens ∧
        (openGroup site.settings caller group).run w = (.ok o, w) ∧
        (addMembers site.settings caller o tokens).run w = (.ok infos, w') ∧
        response = .json 200 (summariesJson infos) := by
  constructor
  · intro h
    obtain ⟨caller, v, hc, k⟩ := run_bind_eq_ok.1 h
    obtain rfl := (reads_callerOf r).world_eq hc
    obtain ⟨tokens, u, hp, kn⟩ := run_bind_eq_ok.1 k
    obtain ⟨parsed, rfl⟩ := Prod.mk.inj hp
    obtain ⟨o, u, ho, rest⟩ := run_bind_eq_ok.1 kn
    obtain rfl := (reads_openGroup _ _ _).world_eq ho
    obtain ⟨infos, u, ha, last⟩ := run_bind_eq_ok.1 rest
    cases last
    exact ⟨caller, tokens, o, infos, hc, parsed, ho, ha, rfl⟩
  · rintro ⟨caller, tokens, o, infos, hc, parsed, ho, ha, rfl⟩
    rw [postMembers, run_bind_of_ok hc, parsed, run_bind_of_ok (run_ofExcept _ _),
      run_bind_of_ok ho, run_bind_of_ok ha]
    rfl

theorem writeMember_eq_ok {member : String} :
    (writeMember site r group member).run w = (.ok response, w') ↔
      ∃ caller o out, (callerOf r).run w = (.ok caller, w) ∧
        (openGroup site.settings caller group).run w = (.ok o, w) ∧
        (putMember site.settings caller o member).run w = (.ok out, w') ∧
        response = putMemberResponse out := by
  constructor
  · intro h
    obtain ⟨caller, v, hc, k⟩ := run_bind_eq_ok.1 h
    obtain rfl := (reads_callerOf r).world_eq hc
    obtain ⟨o, u, ho, kn⟩ := run_bind_eq_ok.1 k
    obtain rfl := (reads_openGroup _ _ _).world_eq ho
    obtain ⟨out, u, hp, last⟩ := run_bind_eq_ok.1 kn
    cases last
    exact ⟨caller, o, out, hc, ho, hp, rfl⟩
  · rintro ⟨caller, o, out, hc, ho, hp, rfl⟩
    rw [writeMember, run_bind_of_ok hc, run_bind_of_ok ho, run_bind_of_ok hp]
    rfl

/-- No account comes between the members that a request names and the accounts they were resolved
to. -/
def Undisturbed (site : Site) (r : Request) (w later : World) : Prop :=
  ∀ caller as v, (callerOf r).run w = (.ok caller, w) →
    Resolves site.settings caller w (memberTokens r) as v →
    ∀ p ∈ (memberTokens r).zip as, Settled site.settings caller w later p.1 p.2

/-- A request for one member is undisturbed where its token is settled. -/
theorem undisturbed_of_single (caller : Caller) (token : String) (a : Account)
    (tokens : memberTokens r = [token]) (called : ((callerOf r).run w).1 = .ok caller)
    (resolved : ((resolveAccount site.settings caller token).run w).1 = .ok a)
    (settled : Settled site.settings caller w w' token a) : Undisturbed site r w w' := by
  intro caller' as v hc resolves p hp
  rw [hc] at called
  obtain rfl := Except.ok.inj called
  rw [tokens] at resolves hp
  cases resolves with
  | cons first rest =>
    cases rest with
    | nil =>
      rw [first] at resolved
      obtain rfl := Except.ok.inj resolved
      obtain rfl := List.mem_singleton.1 hp
      exact settled

theorem postMembers_again (hs : w.store.Reachable) (hf : w.failing = [])
    (steady : w.directory.Steady)
    (named : ∀ tokens, MembersInput.parse r.body = .ok tokens → memberTokens r = tokens)
    (undisturbed : Undisturbed site r w w')
    (h : (postMembers site r group).run w = (.ok response, w')) (now : Int64) :
    ∃ x, (postMembers site r group).run (w'.later now) = (.ok response, x) ∧
      x.store = w'.store := by
  obtain ⟨caller, tokens, o, infos, hc, parsed, ho, ha, rfl⟩ := postMembers_eq_ok.1 h
  obtain rfl := named tokens parsed
  obtain ⟨g, v, stored, -⟩ := run_bind_eq_ok.1 ha
  obtain ⟨access, rfl⟩ := stored_of_run stored
  obtain ⟨past, again, x, reopened, added, same⟩ := addMembers_again hs hf steady ho ha
    (fun as v => undisturbed caller as v hc) now
  refine ⟨x, postMembers_eq_ok.2 ?_, same.store.eq_of_nil⟩
  exact ⟨caller, memberTokens r, again, infos, callerOf_again past hc, parsed, reopened, added, rfl⟩

theorem body_putMemberResponse (out : PutOutcome) :
    (putMemberResponse out).status / 100 = 2 ∧
      (putMemberResponse out).body = out.summary.toJson.compact := by
  cases out <;> simp [putMemberResponse, Response.json, PutOutcome.summary]

theorem writeMember_again {member : String} (hs : w.store.Reachable) (hf : w.failing = [])
    (steady : w.directory.Steady)
    (named : memberTokens r = [member]) (undisturbed : Undisturbed site r w w')
    (h : (writeMember site r group member).run w = (.ok response, w')) (now : Int64) :
    ∃ again x, (writeMember site r group member).run (w'.later now) = (.ok again, x) ∧
      again.status / 100 = 2 ∧ again.body = response.body ∧ x.store = w'.store := by
  obtain ⟨caller, o, out, hc, ho, hp, rfl⟩ := writeMember_eq_ok.1 h
  have stored : ∃ g access, o = ⟨.stored g, access⟩ := by
    obtain ⟨found, v, hm, -⟩ := run_bind_eq_ok.1 hp
    obtain ⟨g, v, stored, -⟩ := run_bind_eq_ok.1 hm
    exact ⟨g, stored_of_run stored⟩
  obtain ⟨g, access, rfl⟩ := stored
  have settled : ∀ as v, Resolves site.settings caller w [member] as v → ∀ p ∈ [member].zip as,
      Settled site.settings caller w w' p.1 p.2 := by
    rw [← named]
    exact fun as v => undisturbed caller as v hc
  obtain ⟨past, o, later, x, reopened, put, shown, same⟩ :=
    putMember_again hs hf steady ho hp settled now
  refine ⟨putMemberResponse later, x, writeMember_eq_ok.2 ?_, (body_putMemberResponse later).1, ?_,
    same.store.eq_of_nil⟩
  · exact ⟨caller, o, later, callerOf_again past hc, reopened, put, rfl⟩
  · rw [(body_putMemberResponse later).2, shown, (body_putMemberResponse out).2]

/-- The route of a request takes the members from its body. -/
def Batched (r : Request) : Prop :=
  ∀ part who, Route.ofPath r.path ≠ some (.member part who)

theorem batched_of_route {route : Route} (path : Route.ofPath r.path = some route)
    (other : ∀ part who, route ≠ .member part who) : Batched r :=
  fun part who single => other part who (Option.some.inj (path.symm.trans single))

theorem memberTokens_of_batched (batched : Batched r) (fits : r.body.length ≤ bodyLimit) :
    memberTokens r =
      match MembersInput.parse r.body with
      | .ok tokens => tokens
      | .error _ => [] := by
  unfold memberTokens
  split
  · next part who path => exact absurd path (batched part who)
  · rw [if_neg (Nat.not_lt.2 fits)]

theorem memberTokens_of_long (batched : Batched r) (long : bodyLimit < r.body.length) :
    memberTokens r = [] := by
  unfold memberTokens
  split
  · next part who path => exact absurd path (batched part who)
  · rw [if_pos long]

theorem memberTokens_of_parse {tokens : List String} (batched : Batched r)
    (fits : r.body.length ≤ bodyLimit) (parsed : MembersInput.parse r.body = .ok tokens) :
    memberTokens r = tokens := by
  rw [memberTokens_of_batched batched fits, parsed]

/-- How a writing request is answered. -/
theorem WritesTo.answer_cases {id : List Char} (writes : WritesTo r id) (site : Site) :
    (Batched r ∧ ∀ w, answer site r w =
        withSegment "id" id (fun group => withBody r (respond (postMembers site r group))) w) ∨
      ∃ who, memberTokens r = ((Text.Percent.segment? who).map String.ofList).toList ∧
        ∀ w, answer site r w = withSegment "id" id (fun group =>
          withSegment "member" who fun member => respond (writeMember site r group member)) w := by
  cases writes with
  | members path method =>
    left
    refine ⟨batched_of_route path (by simp), fun w => ?_⟩
    rw [answer_of_route path method (by simp [Route.methods]) (by decide), answerRoute]
    simp only [if_pos method]
  | addMembers path method =>
    left
    refine ⟨batched_of_route path (by simp), fun w => ?_⟩
    rw [answer_of_route path method List.mem_cons_self (by decide), answerRoute]
  | @member who path method =>
    right
    refine ⟨who, by rw [memberTokens, path], fun w => ?_⟩
    · rw [answer_of_route path method (by simp [Route.methods]) (by decide), answerRoute]
      simp only [if_pos method]

/-- A writing request that succeeded succeeds again with the same members in the same order, and
the store stays as it is, unless an account that the request has created or shown to the caller
comes between a member and its account, or the account does not answer to the member. -/
theorem answer_again {id : List Char} (writes : WritesTo r id) (hs : w.store.Reachable)
    (hf : w.failing = []) (steady : w.directory.Steady)
    (h : answer site r w = (response, w')) (success : response.status / 100 = 2)
    (undisturbed : Undisturbed site r w w') (now : Int64) :
    ∃ again x, answer site r (w'.later now) = (again, x) ∧ again.status / 100 = 2 ∧
      again.body = response.body ∧ x.store = w'.store := by
  rcases writes.answer_cases site with ⟨batched, answers⟩ | ⟨who, named, answers⟩
  · rw [answers] at h
    obtain ⟨text, segment, h⟩ := withSegment_eq_success h success
    obtain ⟨fits, posted⟩ := withBody_eq_success h success
    obtain ⟨x, again, same⟩ := postMembers_again hs hf steady
      (fun _ => memberTokens_of_parse batched fits) undisturbed
      (respond_eq_success posted success) now
    refine ⟨response, x, ?_, success, rfl, same⟩
    rw [answers, withSegment, segment]
    dsimp only
    rw [withBody_of_le fits]
    exact respond_of_ok again
  · rw [answers] at h
    obtain ⟨text, segment, h⟩ := withSegment_eq_success h success
    obtain ⟨member, part, put⟩ := withSegment_eq_success h success
    rw [part] at named
    obtain ⟨again, x, answered, still, shown, same⟩ := writeMember_again hs hf steady
      named undisturbed (respond_eq_success put success) now
    refine ⟨again, x, ?_, still, shown, same⟩
    rw [answers, withSegment, segment]
    dsimp only
    rw [withSegment, part]
    exact respond_of_ok answered

end

/-- A site of a directory where accounts are shown as the visibility says. -/
def siteShowing (visibility : AccountVisibility) : Site :=
  .ofSettings { Settings.default with authType := .ldap, accountVisibility := visibility }

/-- The owner of the team asks for the guest, whom only the directory knows. -/
def guestRequest : Request :=
  ⟨"POST", "/groups/team/members", [("X-Account-Id", Text.Utf8.bytes "1000")],
    Text.Utf8.bytes "\"guest\""⟩

theorem writesTo_guestRequest : WritesTo guestRequest "team".toList :=
  .members (by decide +kernel) rfl

/-- The owner asks for Dana, whose full name an account has, and for a user whom the directory
calls Dana too. -/
def danaRequest : Request :=
  { guestRequest with body := Text.Utf8.bytes "\x7b\"members\":[\"Dana\",\"dsmith\"]\x7d" }

def danaWorld : World :=
  { soloWorld with
    store := .memory ⟨[⟨⟨1000⟩, some "owner", none, none, true, 0⟩,
      ⟨⟨1001⟩, none, some "Dana", none, true, 0⟩], 1002, [soloTeam], 2, []⟩
    directory := .listed [⟨⟨"dsmith", some "Dana", none⟩, none⟩] }

theorem reachable_danaWorld : danaWorld.store.Reachable :=
  reachable_soloWorld.write (.createAccount
    (show _ from rfl : Store.createAccount _ ⟨none, some "Dana", none, true, 0⟩ = .ok (_, _)))

/-- The owner asks for the guest with a capital letter, and the directory knows the guest without
it. -/
def capitalRequest : Request :=
  { guestRequest with body := Text.Utf8.bytes "\"Guest\"" }

def foldingWorld : World :=
  { soloWorld with
    directory := .scripted ⟨[("Guest", [.ok (some ⟨"guest", none, none⟩)])], [], [], []⟩ }

/-- A request is refused when it is sent again, although the directory is steady: when the new
account is hidden from the owner, when it has the full name of another member, and when its
username is another than the one asked for. -/
theorem refused_when_repeated :
    (WritesTo guestRequest "team".toList ∧ soloWorld.store.Reachable ∧
        soloWorld.directory.Steady ∧
        (answer (siteShowing .none) guestRequest soloWorld).1.status = 200 ∧
        (answer (siteShowing .none) guestRequest
          (answer (siteShowing .none) guestRequest soloWorld).2).1.status = 422) ∧
      (WritesTo danaRequest "team".toList ∧ danaWorld.store.Reachable ∧
        danaWorld.directory.Steady ∧
        (answer (siteShowing .all) danaRequest danaWorld).1.status = 200 ∧
        (answer (siteShowing .all) danaRequest
          (answer (siteShowing .all) danaRequest danaWorld).2).1.status = 422) ∧
      WritesTo capitalRequest "team".toList ∧ foldingWorld.store.Reachable ∧
        foldingWorld.directory.Steady ∧
        (answer (siteShowing .all) capitalRequest foldingWorld).1.status = 200 ∧
        (answer (siteShowing .all) capitalRequest
          (answer (siteShowing .all) capitalRequest foldingWorld).2).1.status = 422 := by
  refine ⟨⟨writesTo_guestRequest, reachable_soloWorld, Directory.steady_listed _,
    by decide +kernel, by decide +kernel⟩, ⟨.members (by decide +kernel) rfl, reachable_danaWorld,
    Directory.steady_listed _, by decide +kernel, by decide +kernel⟩,
    .members (by decide +kernel) rfl, reachable_soloWorld, Directory.steady_scripted ?_,
    by decide +kernel, by decide +kernel⟩
  rintro p there
  obtain rfl := List.mem_singleton.1 there
  exact ⟨_, rfl⟩

/-- The account that the first request creates. -/
def guestAccount : Account :=
  ⟨⟨1001⟩, some "guest", none, none, true, 0⟩

/-- Where members of a group see each other the owner sees the guest after the first request. -/
theorem undisturbed_guest :
    Undisturbed (siteShowing .sameGroup) guestRequest soloWorld
      (answer (siteShowing .sameGroup) guestRequest soloWorld).2 :=
  undisturbed_of_single (.user ⟨⟨1000⟩, some "owner", none, none, true, 0⟩) "guest" guestAccount
    (by decide +kernel) (by decide +kernel) (by decide +kernel)
    (.of_single (by decide +kernel) (by decide +kernel) (by unfold Sees; decide +kernel))

theorem guest_added_again :
    ∃ again x, answer (siteShowing .sameGroup) guestRequest
        ((answer (siteShowing .sameGroup) guestRequest soloWorld).2.later 60) = (again, x) ∧
      again.status / 100 = 2 ∧
      again.body = (answer (siteShowing .sameGroup) guestRequest soloWorld).1.body ∧
      x.store = (answer (siteShowing .sameGroup) guestRequest soloWorld).2.store :=
  answer_again writesTo_guestRequest reachable_soloWorld rfl (Directory.steady_listed _)
    (Prod.eta _).symm (by decide +kernel) undisturbed_guest 60

end CodeReview.Http
