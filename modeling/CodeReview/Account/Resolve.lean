import CodeReview.Account.Provision
set_option autoImplicit false

/-!
Resolving a token to an account, with the help of the directory. The store comes first. Only a
token without any match there, seen or hidden, that is a valid username is looked up in the
directory, and only where the kind of authentication uses one.
-/
namespace CodeReview

/-- Creates the account of a token that the directory knows; what the store said about the token
stands whenever the directory does not help. -/
def resolveInDirectory (token : String) (missing : ApiError) : Act ApiError Account := do
  match ← (Act.lookupUser token).outcome with
  | .ok none => Act.fail missing
  | .error (.transport reason) => Act.fail (.directoryUnreachable reason)
  | .error (.protocol _) => Act.fail missing
  | .ok (some _) =>
    match ← (provision token .trusted).outcome with
    | .ok p => (Act.getAccount p.account).mapError .ofStore
    | .error (.directory (.transport reason)) => Act.fail (.directoryUnreachable reason)
    | .error _ => Act.fail missing

def resolveAccount (settings : Settings) (caller : Caller) (token : String) :
    Act ApiError Account := do
  let token := Text.trim token
  let found ← lookupAccounts settings caller token
  match found.unique token with
  | .ok a => return a
  | .error missing =>
    if settings.authType.usesDirectory && found.isEmpty && isValidUsername token then
      resolveInDirectory token missing
    else Act.fail missing

end CodeReview
