import CodeReview.Json.Record
set_option autoImplicit false

/-!
Labels that a change is voted on, with the least and greatest vote.
-/
namespace CodeReview

structure Label where
  name : String
  min : Int16
  max : Int16
  deriving DecidableEq, Repr

namespace Label

/-- The labels of a site that names none, in the order of display. -/
def standard : List Label :=
  [⟨"Code-Review", -2, 2⟩, ⟨"Verified", -1, 1⟩]

def find? (name : String) (labels : List Label) : Option Label :=
  labels.find? fun l => l.name = name

def toJson (l : Label) : Json :=
  .object [("name", .text l.name), ("min", .ofInt16 l.min), ("max", .ofInt16 l.max)]

def ofJson? (j : Json) : Option Label := do
  let r ← j.record? ["name", "min", "max"]
  let name ← r.required "name" Json.text?
  let min ← r.required "min" Json.int16?
  let max ← r.required "max" Json.int16?
  return ⟨name, min, max⟩

def listToJson (labels : List Label) : Json :=
  .array (labels.map toJson)

def listOfJson? (j : Json) : Option (List Label) :=
  j.list? ofJson?

end Label

end CodeReview
