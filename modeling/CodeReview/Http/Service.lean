import CodeReview.Change.Lookup
import CodeReview.Change.Query
import CodeReview.Change.Render
import CodeReview.Group.Membership
import CodeReview.Group.MembersInput
import CodeReview.Hash.Blake3
import CodeReview.Http.Message
import CodeReview.Http.Route
import CodeReview.Site
set_option autoImplicit false

/-!
Answering requests. A change is read with a tag that is the digest of its body, and a read that
already knows the tag gets no body. Members of a group are listed, read and added on behalf of
the caller that the request names, and a batch of them is only read up to a limit of its size.
-/
namespace CodeReview.Http

def callerOf (r : Request) : Act ApiError Caller :=
  match r.header? "X-Account-Id" with
  | none => return .anonymous
  | some value =>
    match (headerText? value).bind fun s => AccountId.parse? (Text.trim s) with
    | some id => identify id
    | none => Act.fail .invalidCallerHeader

/-- The tag of a body: its digest in quotes. -/
def tagOf (body : String) : String :=
  "\"" ++ String.ofList (Text.Hex.encode (Hash.Blake3.digest 32 (Text.Utf8.bytes body))) ++ "\""

def namesTag (value tag : String) : Bool :=
  (Text.split ',' value.toList).any fun t => Text.trimChars t = tag.toList

def knowsTag (r : Request) (tag : String) : Bool :=
  ((r.header? "If-None-Match").bind headerText?).any fun v => namesTag v tag

def cachePolicy : String × String :=
  ("cache-control", "private, max-age=0, must-revalidate")

/-- The options that the detailed view always has. -/
def detailOptions : OptionSet :=
  .ofList [.labels, .detailedLabels, .detailedAccounts, .messages]

def taggedResponse (r : Request) (body : String) : Response :=
  let tag := tagOf body
  if knowsTag r tag then ⟨304, [cachePolicy, ("etag", tag)], ""⟩
  else ⟨200, [("content-type", "application/json"), cachePolicy, ("etag", tag)], body⟩

def readChange (site : Site) (r : Request) (implied : OptionSet) (id : String) :
    Act ApiError Response := do
  let q ← Act.ofExcept (ChangeQuery.ofPairs (Text.Percent.pairs r.query))
  let n ← parseChange id
  let report ← reportChange site.labels site.factories (q.options.union implied) n q.pin
  return taggedResponse r report.toJson.compact

def summariesJson (ss : List AccountSummary) : Json :=
  listJson AccountSummary.toJson ss

def readMembers (site : Site) (r : Request) (group : String) : Act ApiError Response := do
  let caller ← callerOf r
  let g ← openGroup site.settings caller group
  return .json 200 (summariesJson (← listMembers g))

def postMembers (site : Site) (r : Request) (group : String) : Act ApiError Response := do
  let caller ← callerOf r
  let tokens ← Act.ofExcept (MembersInput.parse r.body)
  let g ← openGroup site.settings caller group
  return .json 200 (summariesJson (← addMembers site.settings caller g tokens))

def readMember (site : Site) (r : Request) (group member : String) : Act ApiError Response := do
  let caller ← callerOf r
  let g ← openGroup site.settings caller group
  match ← findMember site.settings caller g member with
  | some s => return .json 200 s.toJson
  | none => Act.fail (.resourceMissing member)

def putMemberResponse : PutOutcome → Response
  | .existing s => .json 200 s.toJson
  | .added s => .json 201 s.toJson

def writeMember (site : Site) (r : Request) (group member : String) : Act ApiError Response := do
  let caller ← callerOf r
  let g ← openGroup site.settings caller group
  return putMemberResponse (← putMember site.settings caller g member)

/-- The response to a part of a path whose bytes are no text. -/
def invalidSegment (name : String) : Response :=
  ⟨400, [("content-type", "text/plain; charset=utf-8")],
    "Invalid URL: Invalid UTF-8 in `" ++ name ++ "`"⟩

def respond (x : Act ApiError Response) : StateM World Response := do
  match ← ExceptT.run x with
  | .ok r => return r
  | .error e => return .ofError e

def withSegment (name : String) (cs : List Char) (f : String → StateM World Response) :
    StateM World Response :=
  match Text.Percent.segment? cs with
  | some text => f (String.ofList text)
  | none => return invalidSegment name

/-- The greatest number of bytes that a body may have to be read. -/
def bodyLimit : Nat := 2097152

def bodyTooLong : Response :=
  ⟨413, [("content-type", "text/plain; charset=utf-8")],
    "Failed to buffer the request body: length limit exceeded"⟩

/-- The body of a request is read before anything else is done with it. -/
def withBody (r : Request) (m : StateM World Response) : StateM World Response :=
  if bodyLimit < r.body.length then return bodyTooLong else m

/-- Answers a request for a route with one of its methods; a HEAD request counts as GET. -/
def answerRoute (site : Site) (r : Request) : Route → StateM World Response
  | .change id => withSegment "id" id fun id => respond (readChange site r .empty id)
  | .changeDetail id => withSegment "id" id fun id => respond (readChange site r detailOptions id)
  | .members id => withSegment "id" id fun id =>
    if r.method = "POST" then withBody r (respond (postMembers site r id))
    else respond (readMembers site r id)
  | .addMembers id => withSegment "id" id fun id => withBody r (respond (postMembers site r id))
  | .member id member => withSegment "id" id fun id => withSegment "member" member fun member =>
    if r.method = "PUT" then respond (writeMember site r id member)
    else respond (readMember site r id member)

/-- Answers a request. A question for the methods of a path is always answered with 200. -/
def answer (site : Site) (r : Request) : StateM World Response := do
  match Route.ofPath r.path with
  | none => return .empty (if r.method = "OPTIONS" then 200 else 404)
  | some route =>
    if r.method = "OPTIONS" then return ⟨200, [route.allow], ""⟩
    else if r.method ∉ route.methods then return ⟨405, [route.allow], ""⟩
    else
      let response ← answerRoute site r route
      return if r.method = "HEAD" then response.withoutBody else response

end CodeReview.Http
