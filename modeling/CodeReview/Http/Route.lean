import CodeReview.Text.Percent
set_option autoImplicit false

/-!
The paths that a site answers, and the methods that each of them takes. The parts of a path are
matched as they are written, before escapes are undone. A part that stands for an id may be empty
inside a path, but not at its end.
-/
namespace CodeReview.Http

inductive Route where
  | change (id : List Char)
  | changeDetail (id : List Char)
  | members (group : List Char)
  | addMembers (group : List Char)
  | member (group member : List Char)
  deriving DecidableEq, Repr

namespace Route

def ofSegments : List (List Char) → Option Route
  | [[], top, id] =>
    if top = "changes".toList ∧ id ≠ [] then some (.change id) else none
  | [[], top, id, last] =>
    if top = "changes".toList ∧ last = "detail".toList then some (.changeDetail id)
    else if top = "groups".toList ∧ last = "members".toList then some (.members id)
    else if top = "groups".toList ∧ last = "members.add".toList then some (.addMembers id)
    else none
  | [[], top, id, middle, who] =>
    if top = "groups".toList ∧ middle = "members".toList ∧ who ≠ [] then
      some (.member id who)
    else none
  | _ => none

def ofPath (path : List Char) : Option Route :=
  ofSegments (Text.split '/' path)

/-- The methods of a route, in the order in which they are announced. -/
def methods : Route → List String
  | .change _ => ["GET", "HEAD"]
  | .changeDetail _ => ["GET", "HEAD"]
  | .members _ => ["GET", "HEAD", "POST"]
  | .addMembers _ => ["POST"]
  | .member _ _ => ["GET", "HEAD", "PUT"]

def allow (r : Route) : String × String :=
  ("allow", ",".intercalate r.methods)

end Route

end CodeReview.Http
