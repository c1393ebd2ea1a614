import CodeReview.Identifier
set_option autoImplicit false

/-!
Why a store refuses a call: something is missing, a name is taken, or the store itself fails.
-/
namespace CodeReview

inductive StoreError where
  | serialization (reason : String)
  | database (reason : String)
  | migration (reason : String)
  | changeNotFound (change : ChangeNumber)
  | duplicateChange (change : ChangeNumber)
  | missingMeta (change : ChangeNumber) (id : String)
  | accountNotFound (id : AccountId)
  | duplicateUsername (name : String)
  | groupNotFound (uuid : String)
  | duplicateGroupName (name : String)
  | integrity (reason : String)
  | lockPoisoned
  deriving DecidableEq, Repr

def StoreError.message : StoreError → String
  | .serialization reason => "serialization error: " ++ reason
  | .database reason => "database error: " ++ reason
  | .migration reason => "migration error: " ++ reason
  | .changeNotFound n => "change not found: " ++ n.text
  | .duplicateChange n => "change " ++ n.text ++ " already exists"
  | .missingMeta n id => "missing meta object " ++ id ++ " for change " ++ n.text
  | .accountNotFound id => "account not found: " ++ id.text
  | .duplicateUsername name => "username '" ++ name ++ "' already in use"
  | .groupNotFound uuid => "group not found: " ++ uuid
  | .duplicateGroupName name => "group name '" ++ name ++ "' already in use"
  | .integrity reason => "integrity error: " ++ reason
  | .lockPoisoned => "store lock poisoned"

end CodeReview
