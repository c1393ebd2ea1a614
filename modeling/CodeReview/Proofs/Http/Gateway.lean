import CodeReview.Proofs.Account.Admission
import CodeReview.Proofs.Account.Asking
import CodeReview.Proofs.Http.Address
import CodeReview.Proofs.Http.Repeated
set_option autoImplicit false

/-!
What requests make a gateway do. A gateway is asked about users only, each of them named by the
request, and the name comes last in the path of the address that is asked for, as it is written.
-/
namespace CodeReview
open Act

/-- A username that is a token but for the blanks around it. -/
def Username (tokens : List String) (name : String) : Prop :=
  isValidUsername name = true ∧ ∃ token ∈ tokens, name = Text.trim token

section
variable {settings : Settings} {caller : Caller} {tokens : List String} {token : String}

theorem asksOnly_resolveActive (there : token ∈ tokens) :
    AsksOnly (Username tokens) (resolveActive settings caller token) := by
  refine ((asksOnly_resolveAccount settings caller token).mono ?_).bind fun a =>
    .of_reads (.ite (.pure _) (.fail _))
  rintro name ⟨same, valid⟩
  exact ⟨valid, token, there, same⟩

theorem asksOnly_resolveAll (rest : List String) (there : ∀ token ∈ rest, token ∈ tokens)
    (found : List AccountId) :
    AsksOnly (Username tokens) (resolveAll settings caller found rest) := by
  induction rest generalizing found with
  | nil => exact .of_reads (.pure _)
  | cons token rest ih =>
    obtain ⟨first, others⟩ := List.forall_mem_cons.1 there
    exact (asksOnly_resolveActive first).bind fun _ => ih others _

theorem asksOnly_addIds {named : String → Prop} (uuid : Uuid) (ids : List AccountId) :
    AsksOnly named (addIds uuid ids) := by
  cases ids with
  | nil => exact .of_reads (.pure _)
  | cons id ids => exact ((AsksOnly.write _ _).mapError _).bind fun _ => .of_reads (.pure _)

theorem asksOnly_addMembers (o : OpenGroup) :
    AsksOnly (Username tokens) (addMembers settings caller o tokens) := by
  refine (AsksOnly.of_reads (.ofExcept _)).bind fun g =>
    (AsksOnly.of_reads (.ofExcept _)).bind fun _ => ?_
  split
  · exact .of_reads (.fail _)
  · exact (asksOnly_resolveAll tokens (fun _ there => there) []).bind fun ids =>
      (asksOnly_addIds g.uuid ids).bind fun _ =>
        .of_reads (ungrouped_summaries (ungrouped_requiredSummary true) ids).reads

theorem asksOnly_putMember (o : OpenGroup) :
    AsksOnly (Username [token]) (putMember settings caller o token) := by
  refine (AsksOnly.of_reads (reads_findMember settings caller o token)).bind fun found => ?_
  cases found with
  | some s => exact .of_reads (.pure _)
  | none =>
    refine (asksOnly_addMembers o).outcome.bind fun made => ?_
    split
    · split
      · exact .of_reads (.pure _)
      · exact .of_reads (.fail _)
    · exact .of_reads (.ite (.fail _) (.fail _))

end

namespace Http

section
variable {site : Site} {r : Request} {group : String} {w w' : World} {response : Response}

theorem asksOnly_postMembers :
    AsksOnly (fun name => ∃ tokens, MembersInput.parse r.body = .ok tokens ∧ Username tokens name)
      (postMembers site r group) := by
  refine (AsksOnly.of_reads (reads_callerOf r)).bind fun caller =>
    .bind_ofExcept fun tokens parsed => ?_
  refine (AsksOnly.of_reads (reads_openGroup _ _ _)).bind fun o => ?_
  refine ((asksOnly_addMembers o).mono fun name known => ?_).bind fun _ => .of_reads (.pure _)
  exact ⟨tokens, parsed, known⟩

theorem asksOnly_writeMember {member : String} :
    AsksOnly (Username [member]) (writeMember site r group member) :=
  (AsksOnly.of_reads (reads_callerOf r)).bind fun _ =>
    (AsksOnly.of_reads (reads_openGroup _ _ _)).bind fun o =>
      (asksOnly_putMember o).bind fun _ => .of_reads (.pure _)

theorem asked_of_respond {named : String → Prop} {x : Act ApiError Response}
    (hx : AsksOnly named x) (h : respond x w = (response, w')) :
    w.directory.Asked named w'.directory := by
  obtain ⟨result, run⟩ := respond_eq h
  have asked := hx w
  rw [run] at asked
  exact asked

/-- Whatever its route is, a request makes the directory be asked about its tokens at most. -/
theorem asked_of_answerRoute {route : Route} (path : Route.ofPath r.path = some route)
    (h : answerRoute site r route w = (response, w')) :
    w.directory.Asked (Username (memberTokens r)) w'.directory := by
  have posted {group : String} (batched : Batched r)
      (k : withBody r (respond (postMembers site r group)) w = (response, w')) :
      w.directory.Asked (Username (memberTokens r)) w'.directory := by
    obtain long | fits := Nat.lt_or_ge bodyLimit r.body.length
    · rw [withBody_of_lt long] at k
      cases k
      exact .refl
    · rw [withBody_of_le fits] at k
      refine asked_of_respond (asksOnly_postMembers.mono ?_) k
      rintro name ⟨tokens, parsed, known⟩
      rw [memberTokens_of_parse batched fits parsed]
      exact known
  cases route with
  | change id =>
    rw [answerRoute] at h
    obtain rfl | ⟨text, -, k⟩ := withSegment_cases h
    · exact .refl
    · exact asked_of_respond (.of_reads (ungrouped_readChange _ _ _ _).reads) k
  | changeDetail id =>
    rw [answerRoute] at h
    obtain rfl | ⟨text, -, k⟩ := withSegment_cases h
    · exact .refl
    · exact asked_of_respond (.of_reads (ungrouped_readChange _ _ _ _).reads) k
  | members id =>
    rw [answerRoute] at h
    obtain rfl | ⟨text, -, k⟩ := withSegment_cases h
    · exact .refl
    split at k
    · exact posted (batched_of_route path (by simp)) k
    · exact asked_of_respond (.of_reads (reads_readMembers _ _ _)) k
  | addMembers id =>
    rw [answerRoute] at h
    obtain rfl | ⟨text, -, k⟩ := withSegment_cases h
    · exact .refl
    · exact posted (batched_of_route path (by simp)) k
  | member id who =>
    rw [answerRoute] at h
    obtain rfl | ⟨text, -, k⟩ := withSegment_cases h
    · exact .refl
    obtain rfl | ⟨member, segment, k⟩ := withSegment_cases k
    · exact .refl
    split at k
    · have tokens : memberTokens r = [String.ofList member] := by
        rw [memberTokens, path]
        dsimp only
        rw [segment]
        rfl
      rw [tokens]
      exact asked_of_respond asksOnly_writeMember k
    · exact asked_of_respond (.of_reads (reads_readMember _ _ _ _)) k

theorem asked_of_answer (site : Site) (r : Request) (w : World) :
    w.directory.Asked (Username (memberTokens r)) (answer site r w).2.directory := by
  obtain ⟨response, -, same⟩ | ⟨route, f, path, -, -, routed⟩ := answer_cases site r
  · rw [same w]
    exact .refl
  · rw [routed w]
    exact asked_of_answerRoute path rfl

end

end Http

namespace Gateway
open Http

/-- A gateway after look-ups of certain names: since then it was sent requests for the addresses of
such users and nothing else. -/
structure Asked (named : String → Prop) (g g' : Gateway) : Prop where
  address : g'.address = g.address
  network : g'.network = g.network
  exchanges : ∃ more, g'.exchanges = g.exchanges ++ more ∧ ∀ e ∈ more, ∃ name found,
    named name ∧ Address.ofText? (g.userAddress name).toList = some found ∧
      e.request = ⟨"GET", String.ofList found.withoutUser.text, none⟩

section
variable {named : String → Prop} {g g' : Gateway}

/-- At most one request is sent, to the address that was given. -/
theorem send_cases (g : Gateway) (method address : String) (body : Option String) :
    (g.send method address body).2 = g ∨ ∃ found e,
      Address.ofText? address.toList = some found ∧
      e.request = ⟨method, String.ofList found.withoutUser.text, body⟩ ∧
      (g.send method address body).2 = { g with exchanges := g.exchanges ++ [e] } := by
  unfold send
  split
  · exact .inl rfl
  · next found read =>
    dsimp only
    split
    · exact .inl rfl
    · let request : GatewayRequest := ⟨method, String.ofList found.withoutUser.text, body⟩
      refine .inr ⟨found, ⟨request, g.network (g.sent ++ [request])⟩, read, rfl, ?_⟩
      split <;> rfl

theorem lookup_sends (g : Gateway) (name : String) :
    (g.lookup name).2 = (g.send "GET" (g.userAddress name) none).2 := by
  unfold lookup
  split <;> simp [*]

theorem Asked.lookup {name : String} (h : g.Asked named g') (known : named name) :
    g.Asked named (g'.lookup name).2 := by
  rw [lookup_sends]
  obtain same | ⟨found, e, read, request, same⟩ := send_cases g' "GET" (g'.userAddress name) none
  · rw [same]
    exact h
  · obtain ⟨address, network, more, exchanges, each⟩ := h
    rw [same]
    refine ⟨address, network, more ++ [e], ?_, ?_⟩
    · rw [← List.append_assoc, ← exchanges]
    · intro e' there
      rcases List.mem_append.1 there with old | new
      · exact each e' old
      · obtain rfl := List.mem_singleton.1 new
        rw [userAddress, address, ← userAddress] at read
        exact ⟨name, found, known, read, request⟩

theorem directory_lookup (g : Gateway) (name : String) :
    (Directory.gateway g).lookup name = ((g.lookup name).1, .gateway (g.lookup name).2) := by
  rw [Directory.lookup]

theorem asked_of_directory {d : Directory} (h : (Directory.gateway g).Asked named d) :
    ∃ g', d = .gateway g' ∧ g.Asked named g' := by
  induction h with
  | refl => exact ⟨g, rfl, rfl, rfl, [], by simp, by simp⟩
  | lookup _ known ih =>
    obtain ⟨g', rfl, asked⟩ := ih
    exact ⟨_, congrArg Prod.snd (directory_lookup g' _), asked.lookup known⟩

end

/-- A text that is one part of the path of an address and is written there as it is. -/
structure IsPathPart (t : List Char) : Prop where
  filled : t ≠ []
  plain : ∀ c ∈ t, c ∉ ['/', '\\', '?', '#', '%'] ∧ isControl c = false
  kept : Address.isDotSegment t = false

theorem isPathPart_of_username {name : String} (valid : isValidUsername name = true) :
    IsPathPart name.toList := by
  obtain ⟨filled, segment⟩ := Address.isPlainSegment_of_username valid
  refine ⟨filled, fun c there => ?_, ?_⟩
  · have plain := segment.plain c there
    have slash := plain.slash
    have unescaped := plain.unescaped
    rw [Address.isSlash, Bool.or_eq_false_iff, decide_eq_false_iff_not,
      decide_eq_false_iff_not] at slash
    rw [Address.escapedInPath_eq, Bool.or_eq_false_iff, Bool.or_eq_false_iff] at unescaped
    exact ⟨by simp [slash, plain.question, plain.number, plain.percent], unescaped.1.1⟩
  · rw [Address.isDotSegment, Address.dots_of_not_mem (segment.not_mem fun p => p.percent rfl)]
    simp [segment.kept]

/-- The request reads the user of a name: it asks for the address of all users, which is the base
and a path that ends in `users`, with the name as one more part at the end of that path. -/
structure ReadsUser (g : Gateway) (name : String) (q : GatewayRequest) : Prop where
  part : IsPathPart name.toList
  asked : ∃ users : Address,
    Address.ofText? (trimSlashes g.address ++ "/users/".toList) = some users ∧
      "/users/".toList <:+ users.path ∧ users.query = none ∧ users.fragment = none ∧
      Address.ofText? (g.userAddress name).toList =
        some { users with path := users.path ++ name.toList } ∧
      q = ⟨"GET", String.ofList (users.withoutUser.text ++ name.toList), none⟩

theorem trimSlashes_append (s : String) : ∃ slashes, (∀ c ∈ slashes, c = '/') ∧
    s.toList = trimSlashes s ++ slashes := by
  refine ⟨s.toList.rtakeWhile (· = '/'), fun c there => ?_,
    List.rdropWhile_append_rtakeWhile.symm⟩
  have slash := List.mem_rtakeWhile_imp there
  exact of_decide_eq_true slash

theorem readsUser_of_request {g : Gateway} {name : String} {q : GatewayRequest} {found : Address}
    (base : Address.IsWebBase g.address.toList) (valid : isValidUsername name = true)
    (read : Address.ofText? (g.userAddress name).toList = some found)
    (request : q = ⟨"GET", String.ofList found.withoutUser.text, none⟩) : g.ReadsUser name q := by
  obtain ⟨slashes, only, whole⟩ := trimSlashes_append g.address
  rw [whole] at base
  have written : (g.userAddress name).toList =
      trimSlashes g.address ++ ("/users/".toList ++ name.toList) := by
    rw [userAddress, String.toList_ofList, List.append_assoc]
  have plain := (Address.isPlainSegment_of_username valid).2
  have below := read
  rw [written] at below
  obtain ⟨users, known, path, who, query, fragment, rfl⟩ :=
    Address.ofText?_below base only plain below
  rw [Address.text_below _ who query fragment] at request
  exact ⟨isPathPart_of_username valid, users, known, path, query, fragment, read, request⟩

end Gateway

namespace Http

/-- Whatever a request says, a gateway behind an address of the web is only sent requests that read
the user of one of its tokens, without the blanks around it. -/
theorem gateway_asked_for_tokens (site : Site) (r : Request) {w : World} {g : Gateway}
    (behind : w.directory = .gateway g) (base : Address.IsWebBase g.address.toList) :
    ∃ g' more, (answer site r w).2.directory = .gateway g' ∧ g'.address = g.address ∧
      g'.network = g.network ∧ g'.exchanges = g.exchanges ++ more ∧
      ∀ e ∈ more, ∃ token ∈ memberTokens r, g.ReadsUser (Text.trim token) e.request := by
  have asked := asked_of_answer site r w
  rw [behind] at asked
  obtain ⟨g', after, address, network, more, exchanges, each⟩ := Gateway.asked_of_directory asked
  refine ⟨g', more, after, address, network, exchanges, fun e there => ?_⟩
  obtain ⟨name, found, ⟨valid, token, given, rfl⟩, read, request⟩ := each e there
  exact ⟨token, given, Gateway.readsUser_of_request base valid read request⟩

/-- A gateway that knows nobody. Its address ends in more than one slash. -/
def deskGateway : Gateway :=
  ⟨"http://[::1]:8080//", fun _ => .answered 404 "", []⟩

theorem isWebBase_deskGateway : Address.IsWebBase deskGateway.address.toList :=
  ⟨⟨"http".toList, some ⟨[], none, some (.pieces [0, 0, 0, 0, 0, 0, 0, 1]), some 8080⟩, ['/', '/'],
    none, none⟩, by decide +kernel, .inl rfl, rfl, rfl⟩

/-- The gateway once it has been asked for a user. -/
def deskAsked : Gateway :=
  { deskGateway with
    exchanges := [⟨⟨"GET", "http://[::1]:8080/users/ada", none⟩, .answered 404 ""⟩] }

def adaAddress : Address :=
  ⟨"http".toList, some ⟨[], none, some (.pieces [0, 0, 0, 0, 0, 0, 0, 1]), some 8080⟩,
    "/users/ada".toList, none, none⟩

theorem ofText?_ada : Address.ofText? (deskGateway.userAddress "ada").toList = some adaAddress := by
  have path : Address.pathText Address.isSlash "/users/ada".toList = "/users/ada".toList := by
    show Address.slashed (["users".toList, "ada".toList].map (escape escapedInPath)) = _
    rw [List.map_cons, List.map_singleton, Address.isPlainSegment_users.escape_eq,
      (Address.isPlainSegment_of_username (by decide : isValidUsername "ada" = true)).2.escape_eq]
    rfl
  have host : Address.authority? "http" "[::1]:8080".toList =
      some ⟨[], none, some (.pieces [0, 0, 0, 0, 0, 0, 0, 1]), some 8080⟩ := by decide +kernel
  have named : Address.splitScheme? (Address.trimmed (deskGateway.userAddress "ada").toList) =
      some ("http", "//[::1]:8080/users/ada".toList) := by decide +kernel
  rw [Address.ofText?_of_whole named (by decide)]
  show ((Address.authority? "http" "[::1]:8080".toList).map fun a => (some a,
    Address.pathText Address.isSlash "/users/ada".toList)).map _ = _
  rw [host, path]
  rfl

theorem isReachable_ada : adaAddress.withoutUser.isReachable = true := by
  simp only [Address.isReachable, String.contains_char_eq]
  decide +kernel

theorem lookup_ada : deskGateway.lookup "ada" = (.ok none, deskAsked) := by
  have sent : deskGateway.send "GET" (deskGateway.userAddress "ada") none =
      (.ok (404, ""), deskAsked) := by
    have text : String.ofList adaAddress.withoutUser.text = "http://[::1]:8080/users/ada" := by
      decide +kernel
    rw [Gateway.send, ofText?_ada]
    dsimp only
    rw [isReachable_ada, text]
    rfl
  rw [Gateway.lookup, sent]
  rfl

def deskOwner : Account :=
  ⟨⟨1000⟩, some "owner", none, none, true, 0⟩

def deskGroup : Group :=
  ⟨Store.sampleUuid 3, ⟨1⟩, "desk", none, Store.sampleUuid 3, .ofList [⟨1000⟩], true, 0⟩

def deskWorld : World where
  store := .memory ⟨[deskOwner], 1001, [deskGroup], 2, []⟩
  failing := []
  directory := .gateway deskGateway
  now := 0
  readOnly := false

def adaRequest : Request :=
  ⟨"POST", "/groups/desk/members", [("X-Account-Id", Text.Utf8.bytes "1000")],
    Text.Utf8.bytes "\" ada\""⟩

theorem directory_lookup_ada :
    deskWorld.directory.lookup "ada" = (.ok none, .gateway deskAsked) := by
  show (Directory.gateway deskGateway).lookup "ada" = _
  rw [Gateway.directory_lookup, lookup_ada]

theorem resolveAccount_ada : (resolveAccount ldap (.user deskOwner) " ada").run deskWorld =
    (.error (.accountMissing "ada"), deskWorld.asked "ada") := by
  have unsettled : Unsettled ldap (.user deskOwner) " ada" deskWorld :=
    ⟨rfl, by decide, by decide, rfl⟩
  have consulted : deskWorld.consult (Text.trim " ada") = (.ok none, deskWorld.asked "ada") := by
    rw [show Text.trim " ada" = "ada" by decide, World.consult, directory_lookup_ada]
  rw [run_resolveAccount_of_unsettled unsettled, run_resolveInDirectory unsettled.username,
    consulted]
  rfl

/-- The request fails once the gateway has been asked. -/
theorem answer_adaRequest :
    (answer (.ofSettings ldap) adaRequest deskWorld).2 = deskWorld.asked "ada" := by
  have sender : (callerOf adaRequest).run deskWorld = (.ok (.user deskOwner), deskWorld) := rfl
  have tokens : MembersInput.parse adaRequest.body = .ok [" ada"] := by decide +kernel
  have opened : (openGroup ldap (.user deskOwner) "desk").run deskWorld =
      (.ok ⟨.stored deskGroup, ⟨true, true, true, true⟩⟩, deskWorld) := rfl
  have added : (addMembers ldap (.user deskOwner) ⟨.stored deskGroup, ⟨true, true, true, true⟩⟩
      [" ada"]).run deskWorld = (.error (.accountMissing "ada"), deskWorld.asked "ada") := by
    show (resolveAll ldap (.user deskOwner) [] [" ada"] >>= _).run deskWorld = _
    rw [resolveAll, resolveActive, run_bind, run_bind, run_bind, resolveAccount_ada]
  have path : Route.ofPath adaRequest.path = some (.members "desk".toList) := by decide +kernel
  have segment : Text.Percent.segment? "desk".toList = some "desk".toList := by decide +kernel
  have posted : (postMembers (.ofSettings ldap) adaRequest "desk").run deskWorld =
      (.error (.accountMissing "ada"), deskWorld.asked "ada") := by
    rw [postMembers, show (Site.ofSettings ldap).settings = ldap from rfl, run_bind_of_ok sender,
      tokens, run_bind_of_ok (run_ofExcept _ _), run_bind_of_ok opened, run_bind, added]
  rw [answer_post rfl path segment (by decide), String.ofList_toList, respond_of_error posted]

theorem ada_asked_for :
    ∃ g', (answer (.ofSettings ldap) adaRequest deskWorld).2.directory = .gateway g' ∧
      ∃ e ∈ g'.exchanges, e.request = ⟨"GET", "http://[::1]:8080/users/ada", none⟩ ∧
        ∃ token ∈ memberTokens adaRequest, deskGateway.ReadsUser (Text.trim token) e.request := by
  obtain ⟨g', more, after, -, -, exchanges, each⟩ :=
    gateway_asked_for_tokens (.ofSettings ldap) adaRequest (w := deskWorld) rfl
      isWebBase_deskGateway
  have asked := after
  rw [answer_adaRequest, World.asked, directory_lookup_ada] at asked
  obtain rfl := Directory.gateway.inj asked
  obtain rfl : deskAsked.exchanges = more := exchanges
  exact ⟨deskAsked, after, _, List.mem_singleton_self _, rfl, each _ (List.mem_singleton_self _)⟩

end Http

end CodeReview
