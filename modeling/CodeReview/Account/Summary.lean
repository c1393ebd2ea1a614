import CodeReview.Caller
set_option autoImplicit false

/-!
What is shown of an account: always its id, and on demand its names, its mail address and a mark
when it is inactive. An account that no longer exists is shown by its id, or refused where it has
to exist.
-/
namespace CodeReview

structure AccountSummary where
  id : AccountId
  name : Option String
  email : Option String
  username : Option String
  inactive : Option Bool
  deriving DecidableEq, Repr

namespace AccountSummary

def idOnly (id : AccountId) : AccountSummary :=
  ⟨id, none, none, none, none⟩

def detailed (a : Account) : AccountSummary :=
  ⟨a.id, a.fullName, a.preferredEmail, a.username, if a.active then none else some true⟩

def ofAccount (details : Bool) (a : Account) : AccountSummary :=
  if details then detailed a else idOnly a.id

def fields (s : AccountSummary) : List (String × Json) :=
  ("_account_id", s.id.toJson) ::
    (Json.optionalField "name" .text s.name
      ++ Json.optionalField "email" .text s.email
      ++ Json.optionalField "username" .text s.username
      ++ Json.optionalField "inactive" .bool s.inactive)

def toJson (s : AccountSummary) : Json :=
  .object s.fields

def names : List String :=
  ["_account_id", "name", "email", "username", "inactive"]

def ofRecord? (r : Json.Record) : Option AccountSummary := do
  let id ← r.required "_account_id" AccountId.ofJson?
  let name ← r.withDefault "name" (Json.option? Json.text?) none
  let email ← r.withDefault "email" (Json.option? Json.text?) none
  let username ← r.withDefault "username" (Json.option? Json.text?) none
  let inactive ← r.withDefault "inactive" (Json.option? Json.bool?) none
  return ⟨id, name, email, username, inactive⟩

def ofJson? (j : Json) : Option AccountSummary :=
  (j.record? names).bind ofRecord?

end AccountSummary

def findAccount (id : AccountId) : Act ApiError (Option Account) := do
  match ← (Act.getAccount id).outcome with
  | .ok a => return some a
  | .error (.accountNotFound _) => return none
  | .error e => Act.fail (.ofStore e)

def summaryOf (details : Bool) (id : AccountId) : Act ApiError AccountSummary := do
  match ← findAccount id with
  | some a => return .ofAccount details a
  | none => return .idOnly id

def requiredSummary (details : Bool) (id : AccountId) : Act ApiError AccountSummary := do
  match ← findAccount id with
  | some a => return .ofAccount details a
  | none => Act.fail (.ofStore (.accountNotFound id))

def summaries (summary : AccountId → Act ApiError AccountSummary) :
    List AccountId → Act ApiError (List AccountSummary)
  | [] => return []
  | id :: ids => do
    let s ← summary id
    let rest ← summaries summary ids
    return s :: rest

end CodeReview
