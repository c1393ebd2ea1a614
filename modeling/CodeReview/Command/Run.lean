import CodeReview.Change.Lookup
import CodeReview.Change.Query
import CodeReview.Change.Render
import CodeReview.Command.Database
import CodeReview.Command.Invocation
import CodeReview.Group.Membership
import CodeReview.Site
set_option autoImplicit false

/-!
Running a command. A request that is rejected and a failure of files, settings or the store are
told apart by the status that the program ends with. What a command printed has the fields of
every object in the order of their names.
-/
namespace CodeReview.Command

inductive Failure where
  | rejected (e : ApiError)
  | broken (reason : String)
  deriving DecidableEq, Repr

namespace Failure

def status : Failure → Nat
  | .rejected _ => 1
  | .broken _ => 3

def message : Failure → String
  | .rejected e => e.message ++ " (" ++ e.code ++ ")"
  | .broken reason => reason

def ofApi (e : ApiError) : Failure :=
  if e.kind = .internalError then .broken e.message else .rejected e

def ofStore (e : StoreError) : Failure :=
  .ofApi (.ofStore e)

end Failure

/-- What a program that runs a command finds around it. -/
structure Surroundings where
  lookup : String → Option String
  network : List GatewayRequest → GatewayReply
  newUuid : Uuid
  folder : Folder

/-- How a command ended, the folder after it and the requests that reached the directory. -/
structure Ending where
  outcome : Except Failure Json
  folder : Folder
  received : List GatewayRequest

def makeAccount (username : String) (name email : Option String) (inactive : Bool) :
    Act Failure Json := do
  if !isValidUsername username then
    Act.fail (.rejected (.ofInput (.invalidUsername username)))
  else
    let a ← (Act.createAccount ⟨some username, name, email, !inactive, 0⟩).mapError .ofStore
    return a.toJson

def ownerId : Option String → Act Failure (Option Uuid)
  | none => return none
  | some owner => do
    match ← (Act.findGroupByName owner).mapError .ofStore with
    | some g => return some g.uuid
    | none => Act.fail (.rejected (.groupMissing owner))

/-- The ids of usernames; the first unknown one is reported. -/
def memberIds : List String → Act Failure (List AccountId)
  | [] => return []
  | username :: rest => do
    match ← (Act.findByUsername username).mapError .ofStore with
    | some a => return a.id :: (← memberIds rest)
    | none => Act.fail (.rejected (.accountMissing username))

def makeGroup (uuid : Uuid) (name : String) (owner : Option String) (members : List String)
    (visible : Bool) : Act Failure Json := do
  let owner ← ownerId owner
  let ids ← memberIds members
  let g ← (Act.createGroup uuid ⟨name, none, owner, .ofList ids, visible, 0⟩).mapError .ofStore
  return g.toJson

/-- Stores a change: as a new snapshot of a known one, or as a new one. -/
def storeChange (c : Change) : Act Failure Json := do
  let id ← match ← (Act.getChange c.id none).outcome with
    | .ok _ => (Act.updateChange c).mapError .ofStore
    | .error (.changeNotFound _) => (Act.insertChange c).mapError .ofStore
    | .error e => Act.fail (.ofStore e)
  return .object [("_number", c.id.toJson), ("meta_rev_id", id.toJson)]

def storeFile (folder : Folder) (file : String) : Act Failure Json :=
  match folder.readText file with
  | .error e => Act.fail (.broken ("failed to read '" ++ file ++ "': " ++ e.message))
  | .ok text =>
    match (Json.parse text).bind Change.ofJson? with
    | some c => storeChange c
    | none => Act.fail (.rejected .invalidChange)

def showChange (site : Site) (id : String) (options : List String) (mask pin : Option String) :
    Act Failure Json := do
  let pairs := options.map (("o", ·)) ++ (mask.map (("O", ·))).toList
    ++ (pin.map (("meta", ·))).toList
  let q ← (Act.ofExcept (ChangeQuery.ofPairs pairs)).mapError .ofApi
  let n ← (parseChange id).mapError .ofApi
  let report ← (reportChange site.labels site.factories q.options n q.pin).mapError .ofApi
  return report.toJson

def extendGroup (site : Site) (group : String) (id : AccountId) (tokens : List String) :
    Act ApiError Json := do
  let caller ← identify id
  let g ← openGroup site.settings caller group
  return listJson AccountSummary.toJson (← CodeReview.addMembers site.settings caller g tokens)

def perform (site : Site) (s : Surroundings) : Command → Act Failure Json
  | .createAccount username name email inactive => makeAccount username name email inactive
  | .createGroup name owner members visible => makeGroup s.newUuid name owner members visible
  | .importChange file => storeFile s.folder file
  | .getChange id options mask pin => showChange site id options mask pin
  | .addMembers group caller members =>
    (extendGroup site group caller members).mapError .ofApi

/-- The directory that the settings name; without one nobody is known. -/
def directoryOf (settings : Settings) (network : List GatewayRequest → GatewayReply) :
    Directory :=
  match settings.directoryUrl with
  | some address => .gateway ⟨address, network, []⟩
  | none => .listed []

def received : Directory → List GatewayRequest
  | .gateway g => g.received
  | _ => []

def tablesOf : Store → Option TableStore
  | .tables t => some t
  | .memory _ => none

/-- Runs a command: settings first, then the database, then the command itself. -/
def Invocation.run (i : Invocation) (s : Surroundings) : Ending :=
  match Settings.read s.lookup with
  | .error e => ⟨.error (.broken e.message), s.folder, []⟩
  | .ok settings =>
    match OpenDatabase.ofText s.folder i.database with
    | (.error e, folder) => ⟨.error (.ofStore e), folder, []⟩
    | (.ok d, _) =>
      let site := Site.ofSettings { settings with databasePath := i.database }
      let world : World := ⟨.tables d.tables, [], directoryOf settings s.network, 0, d.readOnly⟩
      let (outcome, world) := (perform site { s with folder := d.folder } i.command).run world
      ⟨outcome, d.close ((tablesOf world.store).getD d.tables), received world.directory⟩

def printed (j : Json) : String :=
  j.sorted.pretty ++ "\n"

end CodeReview.Command
