import CodeReview.ApiError
import CodeReview.ObjectId
import CodeReview.OutputOption
set_option autoImplicit false

/-!
The parameters of a read. `o` names one option each time it stands, `O` gives a mask of options,
and `meta` pins the read to a snapshot. The names are looked up last, after all other parameters
have been read.
-/
namespace CodeReview

structure ChangeQuery where
  options : OptionSet
  pin : Option ObjectId
  deriving DecidableEq, Repr

namespace ChangeQuery

/-- What has been read so far: the names in order, the masks taken together, the pin. -/
structure Pending where
  names : List String
  masks : OptionSet
  pin : Option ObjectId
  deriving DecidableEq, Repr

def step (p : Pending) (key value : String) : Except ApiError Pending :=
  if key = "o" then .ok { p with names := p.names ++ [value] }
  else if key = "O" then
    match OptionSet.ofHex value with
    | .ok s => .ok { p with masks := p.masks.union s }
    | .error e => .error (.ofInput e)
  else if key = "meta" then
    if value = "" then .ok { p with pin := none }
    else match ObjectId.parse value with
      | .ok id => .ok { p with pin := some id }
      | .error _ => .error (.invalidMeta value)
  else .error (.unknownParameter key)

def steps (p : Pending) : List (String × String) → Except ApiError Pending
  | [] => .ok p
  | (key, value) :: rest =>
    match step p key value with
    | .ok p => steps p rest
    | .error e => .error e

def ofPairs (pairs : List (String × String)) : Except ApiError ChangeQuery :=
  match steps ⟨[], .empty, none⟩ pairs with
  | .error e => .error e
  | .ok p =>
    match OptionSet.ofNames p.names with
    | .ok named => .ok ⟨p.masks.union named, p.pin⟩
    | .error e => .error (.ofInput e)

end ChangeQuery

end CodeReview
