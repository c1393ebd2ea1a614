import CodeReview.Account
import CodeReview.Proofs.Identifier
set_option autoImplicit false

/-!
An account is read back from its text.
-/
namespace CodeReview.Account
open Json Record

theorem ofJson?_toJson (a : Account) : ofJson? a.toJson = some a := by
  refine bind_record rfl (by decide) fun r cells => ?_
  simp only [List.forall_mem_cons] at cells
  obtain ⟨id, username, fullName, email, active, registeredOn, -⟩ := cells
  rw [required_of_cell id (AccountId.ofJson?_toJson _),
    withDefault_of_cell none username (option?_ofText _),
    withDefault_of_cell none fullName (option?_ofText _),
    withDefault_of_cell none email (option?_ofText _),
    withDefault_of_cell true active (bool?_bool _),
    withDefault_of_cell 0 registeredOn (int64?_ofInt64 _)]
  rfl

theorem plain_toJson (a : Account) : a.toJson.plain = true := by
  simp [toJson, plain, plainFields, plain_ofText]

end CodeReview.Account
