import CodeReview.InputError
import CodeReview.Store.Error
set_option autoImplicit false

/-!
How a request fails: a kind, with the status and the code that clients see, and a message.
-/
namespace CodeReview

inductive ErrorKind where
  | badRequest
  | authRequired
  | forbidden
  | notFound
  | methodNotAllowed
  | conflict
  | preconditionFailed
  | unprocessableEntity
  | internalError
  deriving DecidableEq, Repr

namespace ErrorKind

def status : ErrorKind → Nat
  | .badRequest => 400
  | .authRequired => 401
  | .forbidden => 403
  | .notFound => 404
  | .methodNotAllowed => 405
  | .conflict => 409
  | .preconditionFailed => 412
  | .unprocessableEntity => 422
  | .internalError => 500

def code : ErrorKind → String
  | .badRequest => "BAD_REQUEST"
  | .authRequired => "AUTH_REQUIRED"
  | .forbidden => "FORBIDDEN"
  | .notFound => "NOT_FOUND"
  | .methodNotAllowed => "METHOD_NOT_ALLOWED"
  | .conflict => "CONFLICT"
  | .preconditionFailed => "PRECONDITION_FAILED"
  | .unprocessableEntity => "UNPROCESSABLE_ENTITY"
  | .internalError => "INTERNAL_ERROR"

end ErrorKind

structure ApiError where
  kind : ErrorKind
  message : String
  deriving DecidableEq, Repr

namespace ApiError

def status (e : ApiError) : Nat :=
  e.kind.status

def code (e : ApiError) : String :=
  e.kind.code

def ofInput (e : InputError) : ApiError :=
  ⟨.badRequest, e.message⟩

def ofStore (e : StoreError) : ApiError :=
  match e with
  | .changeNotFound n => ⟨.notFound, "Not found: " ++ n.text⟩
  | .accountNotFound id => ⟨.notFound, "Account '" ++ id.text ++ "' not found"⟩
  | .groupNotFound uuid => ⟨.notFound, "Group " ++ uuid ++ " not found"⟩
  | .missingMeta _ _ => ⟨.preconditionFailed, e.message⟩
  | .duplicateChange _ => ⟨.conflict, e.message⟩
  | .duplicateUsername _ => ⟨.conflict, e.message⟩
  | .duplicateGroupName _ => ⟨.conflict, e.message⟩
  | _ => ⟨.internalError, e.message⟩

def authenticationRequired : ApiError :=
  ⟨.authRequired, "Authentication required"⟩

def invalidCallerHeader : ApiError :=
  ⟨.authRequired, "invalid X-Account-Id header"⟩

def unknownCaller (id : AccountId) : ApiError :=
  ⟨.authRequired, "unknown account " ++ id.text⟩

def accountMissing (token : String) : ApiError :=
  ⟨.unprocessableEntity, "Account '" ++ token ++ "' not found"⟩

def accountAmbiguous (token : String) : ApiError :=
  ⟨.unprocessableEntity, "Account '" ++ token ++ "' is ambiguous"⟩

def accountInactive (token : String) : ApiError :=
  ⟨.unprocessableEntity, "Account Inactive: " ++ token⟩

def directoryUnreachable (reason : String) : ApiError :=
  ⟨.internalError, "directory unreachable: " ++ reason⟩

def groupMissing (id : String) : ApiError :=
  ⟨.notFound, "Group Not Found: " ++ id⟩

def externalGroup : ApiError :=
  ⟨.methodNotAllowed, "not an internal group"⟩

def mayNotAdd (group : String) : ApiError :=
  ⟨.forbidden, "Cannot add members to group " ++ group⟩

def resourceMissing (id : String) : ApiError :=
  ⟨.notFound, "Not found: " ++ id⟩

def memberUnknown (token : String) : ApiError :=
  ⟨.notFound, token⟩

def invalidMeta (value : String) : ApiError :=
  ⟨.badRequest, "invalid meta SHA1: " ++ value⟩

def unknownParameter (name : String) : ApiError :=
  ⟨.badRequest, "\"" ++ name ++ "\" is not a valid query parameter"⟩

def unreadable : String :=
  "not of the expected form"

def invalidBody : ApiError :=
  ⟨.badRequest, "invalid JSON body: " ++ unreadable⟩

def invalidMembers : ApiError :=
  ⟨.badRequest, "invalid members input: " ++ unreadable⟩

def invalidChange : ApiError :=
  ⟨.badRequest, "invalid change: " ++ unreadable⟩

end ApiError

end CodeReview
