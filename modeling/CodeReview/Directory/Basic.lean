import CodeReview.Directory.Gateway
set_option autoImplicit false

/-!
Directories of users. One kind is a list of users kept here; one answers by a script, where the
calls for a name get the replies of that name one after the other and then the last one again;
and one is a gateway in the network.
-/
namespace CodeReview

structure ListedUser where
  entry : DirectoryEntry
  password : Option String
  deriving DecidableEq, Repr

abbrev LookupReply := Except DirectoryError (Option DirectoryEntry)
abbrev PasswordReply := Except DirectoryError Bool

structure Script where
  lookups : List (String × List LookupReply)
  passwords : List (String × List PasswordReply)
  lookedUp : List String
  checked : List String

inductive Directory where
  | listed (users : List ListedUser)
  | scripted (script : Script)
  | gateway (gateway : Gateway)

def insertUser (u : ListedUser) (users : List ListedUser) : List ListedUser :=
  users.filter (fun v => v.entry.username ≠ u.entry.username) ++ [u]

/-- The reply to the call that follows the given number of earlier ones. -/
def scriptedReply {α : Type} (replies : List α) (earlier : Nat) : Option α :=
  match replies[earlier]? with
  | some r => some r
  | none => replies.getLast?

namespace Script

def lookup (s : Script) (name : String) : LookupReply × Script :=
  let replies := ((s.lookups.find? fun p => p.1 = name).map Prod.snd).getD []
  ((scriptedReply replies (s.lookedUp.count name)).getD (.ok none),
    { s with lookedUp := name :: s.lookedUp })

def authenticate (s : Script) (name : String) : PasswordReply × Script :=
  let replies := ((s.passwords.find? fun p => p.1 = name).map Prod.snd).getD []
  ((scriptedReply replies (s.checked.count name)).getD (.ok false),
    { s with checked := name :: s.checked })

end Script

namespace Directory

def lookup (d : Directory) (name : String) : LookupReply × Directory :=
  match d with
  | .listed users =>
    (.ok ((users.find? fun u => u.entry.username = name).map ListedUser.entry), d)
  | .scripted s => let (r, s) := s.lookup name; (r, .scripted s)
  | .gateway g => let (r, g) := g.lookup name; (r, .gateway g)

/-- Checks a password; a user without one has no password that fits. -/
def authenticate (d : Directory) (name password : String) : PasswordReply × Directory :=
  match d with
  | .listed users =>
    (.ok ((users.find? fun u => u.entry.username = name).any fun u => u.password = some password),
      d)
  | .scripted s => let (r, s) := s.authenticate name; (r, .scripted s)
  | .gateway g => let (r, g) := g.authenticate name password; (r, .gateway g)

end Directory

end CodeReview
