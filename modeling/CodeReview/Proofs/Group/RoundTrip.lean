import CodeReview.Group
import CodeReview.Proofs.Account.RoundTrip
import CodeReview.Proofs.Change.RoundTrip
set_option autoImplicit false

/-!
A group is read back from its text, and so is everything that a store keeps: the states of
changes, accounts and groups.
-/
namespace CodeReview

namespace Group
open Json Record

theorem ofJson?_toJson (g : Group) : ofJson? g.toJson = some g := by
  refine bind_record rfl (by decide) fun r cells => ?_
  simp only [List.forall_mem_cons] at cells
  obtain ⟨uuid, id, name, description, owner, members, visibleToAll, createdOn, -⟩ := cells
  rw [required_of_cell uuid (Uuid.ofJson?_toJson _),
    required_of_cell id (GroupNumber.ofJson?_toJson _), required_of_cell name (text?_text _),
    withDefault_of_cell none description (option?_ofText _),
    required_of_cell owner (Uuid.ofJson?_toJson _),
    withDefault_of_cell .empty members (AccountSet.ofJson?_toJson _),
    withDefault_of_cell false visibleToAll (bool?_bool _),
    withDefault_of_cell 0 createdOn (int64?_ofInt64 _)]
  rfl

theorem plain_toJson (g : Group) : g.toJson.plain = true := by
  simp [toJson, plain, plainFields, Uuid.toJson, plain_ofText]

end Group

/-- Whatever stands in its fields, a stored value is what its compact text is read as. -/
theorem stored_texts_read_back :
    (∀ c : Change, (Json.parse c.toJson.compact).bind Change.ofJson? = some c) ∧
    (∀ a : Account, (Json.parse a.toJson.compact).bind Account.ofJson? = some a) ∧
    (∀ g : Group, (Json.parse g.toJson.compact).bind Group.ofJson? = some g) := by
  refine ⟨fun c => ?change, fun a => ?account, fun g => ?group⟩
  case change => rw [Json.parse_compact c.plain_toJson, Option.bind_some, c.ofJson?_toJson]
  case account => rw [Json.parse_compact a.plain_toJson, Option.bind_some, a.ofJson?_toJson]
  case group => rw [Json.parse_compact g.plain_toJson, Option.bind_some, g.ofJson?_toJson]

end CodeReview
