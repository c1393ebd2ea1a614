import CodeReview.ApiError
import CodeReview.World
set_option autoImplicit false

/-!
Finding the change that a text names: its number, its project and number, its project, branch and
key, or its key alone, with tildes between the parts. A key starts with the letter I and names a
change only if it is the key of no other change in question.
-/
namespace CodeReview

def findChange (n : ChangeNumber) : Act ApiError (Option Snapshot) := do
  match ← (Act.getChange n none).outcome with
  | .ok s => return some s
  | .error (.changeNotFound _) => return none
  | .error e => Act.fail (.ofStore e)

/-- The numbers whose current state is accepted, in order. -/
def acceptedChanges (accept : Change → Bool) : List ChangeNumber → Act ApiError (List ChangeNumber)
  | [] => return []
  | n :: ns => do
    let s ← (Act.getChange n none).mapError .ofStore
    let rest ← acceptedChanges accept ns
    return if accept s.state then n :: rest else rest

def changeByKey (key : String) (accept : Change → Bool) : Act ApiError (Option ChangeNumber) := do
  if key.toList.head? ≠ some 'I' then return none
  else
    match ← acceptedChanges accept (← (Act.findByKey key).mapError .ofStore) with
    | [only] => return some only
    | _ => return none

def changeOfParts : List String → Act ApiError (Option ChangeNumber)
  | [part] =>
    match ChangeNumber.parse? part with
    | some n => do return (← findChange n).map fun _ => n
    | none => changeByKey part fun _ => true
  | [project, number] =>
    match ChangeNumber.parse? number with
    | some n => do
      return ((← findChange n).filter fun s => s.state.project = project).map fun _ => n
    | none => return none
  | [project, branch, key] =>
    changeByKey key fun c => c.project = project && c.branch = branch
  | _ => return none

def parts (id : String) : List String :=
  (Text.split '~' id.toList).map String.ofList

def parseChange (id : String) : Act ApiError ChangeNumber := do
  match ← changeOfParts (parts id) with
  | some n => return n
  | none => Act.fail (.resourceMissing id)

end CodeReview
