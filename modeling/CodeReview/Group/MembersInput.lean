import CodeReview.ApiError
import CodeReview.Json.Record
import CodeReview.Text.Utf8
set_option autoImplicit false

/-!
The body of a request that adds members. A blank body, `null` and an empty text name nobody, a
text names one member, and an object lists members and may name one more, which comes last and
is left out when it is empty.
-/
namespace CodeReview

structure MembersInput where
  members : List String
  oneMember : Option String
  deriving DecidableEq, Repr

namespace MembersInput

def ofJson? (j : Json) : Option MembersInput := do
  let r ← j.record? ["members", "_one_member"]
  let members ← r.withDefault "members" (Json.list? Json.text?) []
  let oneMember ← r.withDefault "_one_member" (Json.option? Json.text?) none
  return ⟨members, oneMember⟩

def toList (i : MembersInput) : List String :=
  i.members ++ (i.oneMember.filter (· ≠ "")).toList

def isBlankByte (b : UInt8) : Bool :=
  b = 0x20 || b = 0x09 || b = 0x0a || b = 0x0c || b = 0x0d

def ofValue (j : Json) : Except ApiError (List String) :=
  match j with
  | .null => .ok []
  | .text s => .ok (if s = "" then [] else [s])
  | j =>
    match ofJson? j with
    | some i => .ok i.toList
    | none => .error .invalidMembers

def parse (body : List UInt8) : Except ApiError (List String) :=
  if body.all isBlankByte then .ok []
  else
    match (Text.Utf8.decode? body).bind fun cs => Json.parseValue (String.ofList cs) with
    | some j => ofValue j
    | none => .error .invalidBody

end MembersInput

end CodeReview
