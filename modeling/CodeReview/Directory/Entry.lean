import CodeReview.Json.Record
set_option autoImplicit false

/-!
What a directory knows of a user, and why asking it may fail: it cannot be reached, or it answers
with something that makes no sense.
-/
namespace CodeReview

structure DirectoryEntry where
  username : String
  fullName : Option String
  email : Option String
  deriving DecidableEq, Repr

inductive DirectoryError where
  | transport (reason : String)
  | protocol (reason : String)
  deriving DecidableEq, Repr

def DirectoryError.message : DirectoryError → String
  | .transport reason => "directory unreachable: " ++ reason
  | .protocol reason => "directory protocol error: " ++ reason

namespace DirectoryEntry

def toJson (e : DirectoryEntry) : Json :=
  .object [("username", .text e.username), ("full_name", Json.ofOption .text e.fullName),
    ("email", Json.ofOption .text e.email)]

def ofJson? (j : Json) : Option DirectoryEntry := do
  let r ← j.record? ["username", "full_name", "email"]
  let username ← r.required "username" Json.text?
  let fullName ← r.withDefault "full_name" (Json.option? Json.text?) none
  let email ← r.withDefault "email" (Json.option? Json.text?) none
  return ⟨username, fullName, email⟩

end DirectoryEntry

end CodeReview
