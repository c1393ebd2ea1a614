import CodeReview.AccountSet
import CodeReview.Uuid
import CodeReview.Text.Blank
set_option autoImplicit false

/-!
Groups of accounts. An internal group is kept here, with its members and the group that owns it;
an external one belongs to a directory and is only named, by a text that starts with `ldap:`.
-/
namespace CodeReview

structure Group where
  uuid : Uuid
  id : GroupNumber
  name : String
  description : Option String
  owner : Uuid
  members : AccountSet
  visibleToAll : Bool
  createdOn : Int64
  deriving DecidableEq, Repr

/-- What is known of a group before it has its ids; without an owner it owns itself. -/
structure NewGroup where
  name : String
  description : Option String
  owner : Option Uuid
  members : AccountSet
  visibleToAll : Bool
  createdOn : Int64
  deriving DecidableEq, Repr

def NewGroup.withIds (g : NewGroup) (uuid : Uuid) (id : GroupNumber) : Group :=
  ⟨uuid, id, g.name, g.description, g.owner.getD uuid, g.members, g.visibleToAll, g.createdOn⟩

inductive GroupReference where
  | stored (g : Group)
  | external (id name : String)
  deriving DecidableEq, Repr

def externalMark : List Char :=
  ['l', 'd', 'a', 'p', ':']

namespace GroupReference

def name : GroupReference → String
  | .stored g => g.name
  | .external _ name => name

def stored? : GroupReference → Option Group
  | .stored g => some g
  | .external _ _ => none

def external? (id : String) : Option GroupReference :=
  (Text.stripStart externalMark id.toList).map fun name => .external id (String.ofList name)

end GroupReference

namespace Group

def hasMember (g : Group) (a : AccountId) : Bool :=
  g.members.contains a

def toJson (g : Group) : Json :=
  .object [
    ("uuid", g.uuid.toJson),
    ("id", g.id.toJson),
    ("name", .text g.name),
    ("description", Json.ofOption .text g.description),
    ("owner_group_uuid", g.owner.toJson),
    ("members", g.members.toJson),
    ("visible_to_all", .bool g.visibleToAll),
    ("created_on", .ofInt64 g.createdOn)]

def ofJson? (j : Json) : Option Group := do
  let r ← j.record? ["uuid", "id", "name", "description", "owner_group_uuid", "members",
    "visible_to_all", "created_on"]
  let uuid ← r.required "uuid" Uuid.ofJson?
  let id ← r.required "id" GroupNumber.ofJson?
  let name ← r.required "name" Json.text?
  let description ← r.withDefault "description" (Json.option? Json.text?) none
  let owner ← r.required "owner_group_uuid" Uuid.ofJson?
  let members ← r.withDefault "members" AccountSet.ofJson? .empty
  let visibleToAll ← r.withDefault "visible_to_all" Json.bool? false
  let createdOn ← r.withDefault "created_on" Json.int64? 0
  return ⟨uuid, id, name, description, owner, members, visibleToAll, createdOn⟩

end Group

namespace NewGroup

def toJson (g : NewGroup) : Json :=
  .object [
    ("name", .text g.name),
    ("description", Json.ofOption .text g.description),
    ("owner_group_uuid", Json.ofOption Uuid.toJson g.owner),
    ("members", g.members.toJson),
    ("visible_to_all", .bool g.visibleToAll),
    ("created_on", .ofInt64 g.createdOn)]

def ofJson? (j : Json) : Option NewGroup := do
  let r ← j.record? ["name", "description", "owner_group_uuid", "members", "visible_to_all",
    "created_on"]
  let name ← r.required "name" Json.text?
  let description ← r.nullable "description" Json.text?
  let owner ← r.nullable "owner_group_uuid" Uuid.ofJson?
  let members ← r.required "members" AccountSet.ofJson?
  let visibleToAll ← r.required "visible_to_all" Json.bool?
  let createdOn ← r.required "created_on" Json.int64?
  return ⟨name, description, owner, members, visibleToAll, createdOn⟩

end NewGroup

end CodeReview
