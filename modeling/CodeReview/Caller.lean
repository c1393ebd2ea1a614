import CodeReview.ApiError
import CodeReview.World
set_option autoImplicit false

/-!
The caller of a request. Without an account the caller is anonymous; unknown and inactive
accounts cannot act. Administrators are the direct members of the group that the settings name.
-/
namespace CodeReview

inductive Caller where
  | anonymous
  | user (a : Account)
  deriving DecidableEq, Repr

namespace Caller

def accountId? : Caller → Option AccountId
  | .anonymous => none
  | .user a => some a.id

def requireUser : Caller → Except ApiError Account
  | .anonymous => .error .authenticationRequired
  | .user a => .ok a

end Caller

def identify (id : AccountId) : Act ApiError Caller := do
  match ← (Act.getAccount id).outcome with
  | .ok a => if a.active then return .user a else Act.fail (.unknownCaller id)
  | .error (.accountNotFound _) => Act.fail (.unknownCaller id)
  | .error e => Act.fail (.ofStore e)

def isAdministrator (adminGroup : String) (id : AccountId) : Act StoreError Bool := do
  return (← Act.findGroupByName adminGroup).any fun g => g.hasMember id

end CodeReview
