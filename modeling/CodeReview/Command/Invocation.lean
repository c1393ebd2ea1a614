import CodeReview.Command.Words
import CodeReview.Identifier
set_option autoImplicit false

/-!
What a command line asks for: one command, and the database it works on. The database may be
named before and after the name of the command, and the later name counts.
-/
namespace CodeReview

inductive Command where
  | createAccount (username : String) (name email : Option String) (inactive : Bool)
  | createGroup (name : String) (owner : Option String) (members : List String) (visible : Bool)
  | importChange (file : String)
  | getChange (id : String) (options : List String) (mask pin : Option String)
  | addMembers (group : String) (caller : AccountId) (members : List String)
  deriving DecidableEq, Repr

namespace Command

structure Invocation where
  database : String
  command : Command
  deriving DecidableEq, Repr

def databaseRule : Rule :=
  ⟨.database, some 'd', some "db", true⟩

def valued (key : Key) (long : String) : Rule :=
  ⟨key, none, some long, true⟩

def switch (key : Key) (long : String) : Rule :=
  ⟨key, none, some long, false⟩

def rules? (command : String) : Option (List Rule) :=
  if command = "create-account" then
    some [valued .fullName "name", valued .email "email", switch .inactive "inactive"]
  else if command = "create-group" then
    some [valued .owner "owner", ⟨.member, some 'm', some "member", true⟩,
      switch .visible "visible"]
  else if command = "import-change" then some []
  else if command = "get-change" then
    some [⟨.output, some 'o', none, true⟩, ⟨.mask, some 'O', none, true⟩, valued .pin "meta"]
  else if command = "add-members" then some [valued .caller "as"]
  else none

/-- An account number on the command line may have a sign in front, also that of minus zero. -/
def callerId? (s : String) : Option AccountId :=
  match s.toList with
  | '-' :: cs =>
    match Text.Numeral.digits 10 0 0 cs with
    | .ok _ => if cs = [] then none else some ⟨0⟩
    | .error _ => none
  | _ => AccountId.parse? s

def ofWords? (name : String) (w : Words) : Option Command :=
  if name = "create-account" then
    match w.operands with
    | [username] => do
      return .createAccount username (← w.single? .fullName) (← w.single? .email)
        (← w.switch? .inactive)
    | _ => none
  else if name = "create-group" then
    match w.operands with
    | [group] => do
      return .createGroup group (← w.single? .owner) (w.all .member) (← w.switch? .visible)
    | _ => none
  else if name = "import-change" then
    match w.operands with
    | [file] => some (.importChange file)
    | _ => none
  else if name = "get-change" then
    match w.operands with
    | [id] => do
      return .getChange id (w.all .output) (← w.single? .mask) (← w.single? .pin)
    | _ => none
  else if name = "add-members" then
    match w.operands with
    | group :: member :: members => do
      let caller ← (← w.single? .caller).bind callerId?
      return .addMembers group caller (member :: members)
    | _ => none
  else none

def Invocation.ofArguments? (arguments : List String) : Option Invocation := do
  let top ← Words.readHead [databaseRule] none arguments
  match top.operands with
  | [] => none
  | name :: rest =>
    let w ← Words.read (databaseRule :: (← rules? name)) none rest
    let outer ← top.single? .database
    let inner ← w.single? .database
    return ⟨(inner <|> outer).getD "critic.db", ← ofWords? name w⟩

end Command

end CodeReview
