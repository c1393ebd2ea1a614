import CodeReview.Identifier
import CodeReview.Text.Blank
set_option autoImplicit false

/-!
Accounts of users. Only the number is certain; names and the mail address may be missing, and an
inactive account keeps its place but may not act.
-/
namespace CodeReview

structure Account where
  id : AccountId
  username : Option String
  fullName : Option String
  preferredEmail : Option String
  active : Bool
  registeredOn : Int64
  deriving DecidableEq, Repr

structure NewAccount where
  username : Option String
  fullName : Option String
  preferredEmail : Option String
  active : Bool
  registeredOn : Int64
  deriving DecidableEq, Repr

def NewAccount.withId (a : NewAccount) (id : AccountId) : Account :=
  ⟨id, a.username, a.fullName, a.preferredEmail, a.active, a.registeredOn⟩

def isUsernameChar (c : Char) : Bool :=
  Text.isAsciiAlphanumeric c || c = '.' || c = '_' || c = '-' || c = '@'

/-- A username has a letter or digit at both ends and between them also points, underscores,
hyphens and at signs. -/
def isValidUsername (name : String) : Bool :=
  match name.toList with
  | [] => false
  | c :: cs =>
    Text.isAsciiAlphanumeric c && Text.isAsciiAlphanumeric ((c :: cs).getLast (by simp))
      && (c :: cs).all isUsernameChar

namespace Account

/-- The full name with the mail address in angle brackets, or whichever of the two there is. -/
def nameEmail (a : Account) : Option String :=
  match a.fullName, a.preferredEmail with
  | some name, some email => some (name ++ " <" ++ email ++ ">")
  | some name, none => some name
  | none, some email => some ("<" ++ email ++ ">")
  | none, none => none

def toJson (a : Account) : Json :=
  .object [
    ("id", a.id.toJson),
    ("username", Json.ofOption .text a.username),
    ("full_name", Json.ofOption .text a.fullName),
    ("preferred_email", Json.ofOption .text a.preferredEmail),
    ("active", .bool a.active),
    ("registered_on", .ofInt64 a.registeredOn)]

def ofJson? (j : Json) : Option Account := do
  let r ← j.record? ["id", "username", "full_name", "preferred_email", "active", "registered_on"]
  let id ← r.required "id" AccountId.ofJson?
  let username ← r.withDefault "username" (Json.option? Json.text?) none
  let fullName ← r.withDefault "full_name" (Json.option? Json.text?) none
  let email ← r.withDefault "preferred_email" (Json.option? Json.text?) none
  let active ← r.withDefault "active" Json.bool? true
  let registeredOn ← r.withDefault "registered_on" Json.int64? 0
  return ⟨id, username, fullName, email, active, registeredOn⟩

end Account

namespace NewAccount

def toJson (a : NewAccount) : Json :=
  .object [
    ("username", Json.ofOption .text a.username),
    ("full_name", Json.ofOption .text a.fullName),
    ("preferred_email", Json.ofOption .text a.preferredEmail),
    ("active", .bool a.active),
    ("registered_on", .ofInt64 a.registeredOn)]

def ofJson? (j : Json) : Option NewAccount := do
  let r ← j.record? ["username", "full_name", "preferred_email", "active", "registered_on"]
  let username ← r.nullable "username" Json.text?
  let fullName ← r.nullable "full_name" Json.text?
  let email ← r.nullable "preferred_email" Json.text?
  let active ← r.required "active" Json.bool?
  let registeredOn ← r.required "registered_on" Json.int64?
  return ⟨username, fullName, email, active, registeredOn⟩

end NewAccount

end CodeReview
