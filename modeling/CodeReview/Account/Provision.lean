import CodeReview.Account.Lookup
set_option autoImplicit false

/-!
Accounts from the directory. A user whom the directory knows gets an account on the first
occasion, with the name and mail address of the directory; a mail address that is already in use
and a username that is taken prevent it.
-/
namespace CodeReview

inductive ProvisionError where
  | invalidUsername (name : String)
  | noSuchUser (name : String)
  | authenticationFailed (name : String)
  | duplicateUsername (name : String)
  | duplicateEmail (email : String)
  | storage (reason : String)
  | directory (e : DirectoryError)
  deriving DecidableEq, Repr

def ProvisionError.message : ProvisionError → String
  | .invalidUsername name => "invalid username '" ++ name ++ "'"
  | .noSuchUser name => "no such user '" ++ name ++ "' in directory"
  | .authenticationFailed name => "authentication failed for '" ++ name ++ "'"
  | .duplicateUsername name => "username '" ++ name ++ "' already in use"
  | .duplicateEmail email => "email '" ++ email ++ "' already in use"
  | .storage reason => "cannot store account: " ++ reason
  | .directory e => e.message

/-- How a user proves to be the one named: by a password, or not at all. -/
inductive Credentials where
  | password (text : String)
  | trusted
  deriving DecidableEq, Repr

structure Provisioned where
  account : AccountId
  isNew : Bool
  deriving DecidableEq, Repr

namespace ProvisionError

def ofStore (e : StoreError) : ProvisionError :=
  .storage e.message

def ofCreation : StoreError → ProvisionError
  | .duplicateUsername name => .duplicateUsername name
  | e => ofStore e

end ProvisionError

def checkCredentials (name : String) : Credentials → Act ProvisionError Unit
  | .trusted => return ()
  | .password text => do
    if ← (Act.checkPassword name text).mapError .directory then return ()
    else Act.fail (.authenticationFailed name)

def checkEmailFree : Option String → Act ProvisionError Unit
  | none => return ()
  | some email => do
    match ← (Act.findByEmail email).mapError .ofStore with
    | [] => return ()
    | _ => Act.fail (.duplicateEmail email)

def DirectoryEntry.newAccount (e : DirectoryEntry) (now : Int64) : NewAccount :=
  ⟨some e.username, e.fullName, e.email, true, now⟩

/-- Creates the account of an entry, unless its mail address is in use. -/
def createFromEntry (e : DirectoryEntry) : Act ProvisionError Provisioned := do
  checkEmailFree e.email
  let created ← (Act.createAccount (e.newAccount (← Act.now))).mapError .ofCreation
  return ⟨created.id, true⟩

/-- The account of a name that the directory has an entry for. -/
def accountOfEntry (name : String) (credentials : Credentials) (e : DirectoryEntry) :
    Act ProvisionError Provisioned := do
  checkCredentials name credentials
  match ← (Act.findByUsername name).mapError .ofStore with
  | some existing => return ⟨existing.id, false⟩
  | none => createFromEntry e

/-- The account of a user of the directory, created from the directory's entry if there is none
under that name. -/
def provision (name : String) (credentials : Credentials) : Act ProvisionError Provisioned := do
  if !isValidUsername name then Act.fail (.invalidUsername name)
  else
    match ← (Act.lookupUser name).mapError .directory with
    | none => Act.fail (.noSuchUser name)
    | some entry => accountOfEntry name credentials entry

end CodeReview
