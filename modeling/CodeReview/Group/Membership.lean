import CodeReview.Account.Resolve
import CodeReview.Group.Access
set_option autoImplicit false

/-!
Members of a group: adding, finding and listing them. Every token of a batch is resolved before
anything is written, so one bad token leaves the group as it was. Members are listed by full
name, those without one first, and by number where names are equal.
-/
namespace CodeReview

inductive PutOutcome where
  | existing (s : AccountSummary)
  | added (s : AccountSummary)
  deriving DecidableEq, Repr

def resolveActive (settings : Settings) (caller : Caller) (token : String) :
    Act ApiError AccountId := do
  let a ← resolveAccount settings caller token
  if a.active then return a.id else Act.fail (.accountInactive token)

/-- The accounts of the tokens one after the other, each id once, in order of first occurrence
after those found so far. -/
def resolveAll (settings : Settings) (caller : Caller) :
    List AccountId → List String → Act ApiError (List AccountId)
  | found, [] => return found
  | found, token :: tokens => do
    let id ← resolveActive settings caller token
    resolveAll settings caller (if id ∈ found then found else found ++ [id]) tokens

/-- Adds ids to a group; nothing is written when there are none. -/
def addIds (uuid : Uuid) (ids : List AccountId) : Act ApiError Unit :=
  match ids with
  | [] => return ()
  | _ => do
    let _ ← (Act.updateMembers uuid fun current => current.insertAll ids).mapError .ofStore
    return ()

def addMembers (settings : Settings) (caller : Caller) (r : OpenGroup) (tokens : List String) :
    Act ApiError (List AccountSummary) := do
  let g ← Act.ofExcept r.stored
  let _ ← Act.ofExcept caller.requireUser
  if !r.access.canAddMember then Act.fail (.mayNotAdd g.name)
  else
    let ids ← resolveAll settings caller [] tokens
    addIds g.uuid ids
    summaries (requiredSummary true) ids

def findMember (settings : Settings) (caller : Caller) (r : OpenGroup) (token : String) :
    Act ApiError (Option AccountSummary) := do
  let g ← Act.ofExcept r.stored
  match ← (parseAccount settings caller token).outcome with
  | .ok a =>
    if g.hasMember a.id then return some (← requiredSummary true a.id) else return none
  | .error e => if e.kind = .unprocessableEntity then return none else Act.fail e

/-- Adds one member, unless it is one already. -/
def putMember (settings : Settings) (caller : Caller) (r : OpenGroup) (token : String) :
    Act ApiError PutOutcome := do
  match ← findMember settings caller r token with
  | some s => return .existing s
  | none =>
    match ← (addMembers settings caller r [token]).outcome with
    | .ok infos =>
      match infos.getLast? with
      | some s => return .added s
      | none => Act.fail (.memberUnknown token)
    | .error e =>
      if e.kind = .unprocessableEntity then Act.fail (.memberUnknown token) else Act.fail e

/-- The order of names: none before some, and names character by character. -/
def nameBefore : Option String → Option String → Bool
  | none, some _ => true
  | some a, some b => decide (a < b)
  | _, none => false

def summaryBefore (a b : AccountSummary) : Bool :=
  nameBefore a.name b.name ||
    (a.name = b.name && decide (a.id.number ≤ b.id.number))

def insertSummary (s : AccountSummary) : List AccountSummary → List AccountSummary
  | [] => [s]
  | t :: ts => if summaryBefore s t then s :: t :: ts else t :: insertSummary s ts

def sortSummaries (ss : List AccountSummary) : List AccountSummary :=
  ss.foldr insertSummary []

def listMembers (r : OpenGroup) : Act ApiError (List AccountSummary) := do
  let g ← Act.ofExcept r.stored
  if !r.access.canSeeMembers then Act.fail (.groupMissing g.uuid.text)
  else return sortSummaries (← summaries (summaryOf true) g.members.ids)

end CodeReview
