import CodeReview.Store.Tables
set_option autoImplicit false

/-!
The text that a store in tables is kept as: an object of five lists, one row after the other in
each of them, beside a word about how it is written to. Before there are tables, nothing stands
for them.
-/
namespace CodeReview

namespace GroupRow

def toJson (r : GroupRow) : Json :=
  .object [("uuid", r.uuid.toJson), ("id", r.id.toJson), ("name", .text r.name),
    ("description", Json.ofOption .text r.description), ("owner", r.owner.toJson),
    ("visible_to_all", .bool r.visibleToAll), ("created_on", .ofInt64 r.createdOn)]

def ofJson? (j : Json) : Option GroupRow := do
  let r ← j.record? ["uuid", "id", "name", "description", "owner", "visible_to_all", "created_on"]
  return {
    uuid := ← r.required "uuid" Uuid.ofJson?
    id := ← r.required "id" GroupNumber.ofJson?
    name := ← r.required "name" Json.text?
    description := ← r.required "description" (Json.option? Json.text?)
    owner := ← r.required "owner" Uuid.ofJson?
    visibleToAll := ← r.required "visible_to_all" Json.bool?
    createdOn := ← r.required "created_on" Json.int64? }

end GroupRow

namespace MemberRow

def toJson (r : MemberRow) : Json :=
  .object [("group", r.group.toJson), ("account", r.account.toJson)]

def ofJson? (j : Json) : Option MemberRow := do
  let r ← j.record? ["group", "account"]
  return ⟨← r.required "group" Uuid.ofJson?, ← r.required "account" AccountId.ofJson?⟩

end MemberRow

namespace ChangeRow

def toJson (r : ChangeRow) : Json :=
  .object [("id", r.id.toJson), ("key", .text r.key), ("current", r.current.toJson)]

def ofJson? (j : Json) : Option ChangeRow := do
  let r ← j.record? ["id", "key", "current"]
  return ⟨← r.required "id" ChangeNumber.ofJson?, ← r.required "key" Json.text?,
    ← r.required "current" ObjectId.ofJson?⟩

end ChangeRow

namespace MetaRow

def toJson (r : MetaRow) : Json :=
  .object [("id", r.id.toJson), ("change", r.change.toJson), ("sequence", .ofNat r.sequence),
    ("parent", Json.ofOption ObjectId.toJson r.parent), ("state", .text r.state)]

def ofJson? (j : Json) : Option MetaRow := do
  let r ← j.record? ["id", "change", "sequence", "parent", "state"]
  return {
    id := ← r.required "id" ObjectId.ofJson?
    change := ← r.required "change" ChangeNumber.ofJson?
    sequence := ← r.required "sequence" Json.nat?
    parent := ← r.required "parent" (Json.option? ObjectId.ofJson?)
    state := ← r.required "state" Json.text? }

end MetaRow

namespace TableStore

def toJson (s : TableStore) : Json :=
  .object [("accounts", .array (s.accounts.map Account.toJson)),
    ("groups", .array (s.groups.map GroupRow.toJson)),
    ("members", .array (s.members.map MemberRow.toJson)),
    ("changes", .array (s.changes.map ChangeRow.toJson)),
    ("metas", .array (s.metas.map MetaRow.toJson))]

def ofJson? (j : Json) : Option TableStore := do
  let r ← j.record? ["accounts", "groups", "members", "changes", "metas"]
  return {
    accounts := ← r.required "accounts" (Json.list? Account.ofJson?)
    groups := ← r.required "groups" (Json.list? GroupRow.ofJson?)
    members := ← r.required "members" (Json.list? MemberRow.ofJson?)
    changes := ← r.required "changes" (Json.list? ChangeRow.ofJson?)
    metas := ← r.required "metas" (Json.list? MetaRow.ofJson?) }

end TableStore

/-- A store that is kept, and whether writes go to a log beside it first. -/
structure SavedStore where
  tables : Option TableStore
  logs : Bool
  deriving DecidableEq, Repr

namespace SavedStore

def toJson (s : SavedStore) : Json :=
  .object [("tables", Json.ofOption TableStore.toJson s.tables), ("logs", .bool s.logs)]

def ofJson? (j : Json) : Option SavedStore := do
  let r ← j.record? ["tables", "logs"]
  return ⟨← r.required "tables" (Json.option? TableStore.ofJson?),
    ← r.required "logs" Json.bool?⟩

def text (s : SavedStore) : String :=
  s.toJson.compact

def ofText? (text : String) : Option SavedStore :=
  (Json.parse text).bind ofJson?

end SavedStore

end CodeReview
