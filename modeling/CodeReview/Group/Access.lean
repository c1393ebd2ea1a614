import CodeReview.Account.Lookup
set_option autoImplicit false

/-!
Opening a group for a caller. A group is named by its uuid, its number or its name, tried in this
order; a text that reads as a uuid is nothing else. Owners of a group are the direct members of
the group that owns it and the administrators. A group that the caller may not see is reported
like a missing one.
-/
namespace CodeReview

structure GroupAccess where
  isOwner : Bool
  isMember : Bool
  visibleToAll : Bool
  internal : Bool
  deriving DecidableEq, Repr

namespace GroupAccess

def isVisible (a : GroupAccess) : Bool :=
  a.visibleToAll || a.isOwner || a.isMember

def canAddMember (a : GroupAccess) : Bool :=
  a.internal && a.isOwner

def canSeeMembers (a : GroupAccess) : Bool :=
  a.internal && a.isVisible

end GroupAccess

/-- A group as it was when it was opened, with what the caller may do with it. -/
structure OpenGroup where
  group : GroupReference
  access : GroupAccess
  deriving DecidableEq, Repr

def OpenGroup.stored (r : OpenGroup) : Except ApiError Group :=
  match r.group with
  | .stored g => .ok g
  | .external _ _ => .error .externalGroup

def findGroup (uuid : Uuid) : Act ApiError (Option Group) := do
  match ← (Act.getGroup uuid).outcome with
  | .ok g => return some g
  | .error (.groupNotFound _) => return none
  | .error e => Act.fail (.ofStore e)

def ownsGroup (settings : Settings) (viewer : AccountId) (g : Group) : Act ApiError Bool := do
  if ← (isAdministrator settings.adminGroup viewer).mapError .ofStore then return true
  else if g.owner = g.uuid then return g.hasMember viewer
  else return (← findGroup g.owner).any fun o => o.hasMember viewer

def groupAccess (settings : Settings) (caller : Caller) :
    GroupReference → Act ApiError GroupAccess
  | .external _ _ => return ⟨false, false, true, false⟩
  | .stored g =>
    match caller.accountId? with
    | none => return ⟨false, false, g.visibleToAll, true⟩
    | some viewer => do
      let owner ← ownsGroup settings viewer g
      return ⟨owner, g.hasMember viewer, g.visibleToAll, true⟩

def findGroupByNumberOrName (id : String) : Act ApiError (Option Group) := do
  match GroupNumber.parse? id with
  | none => (Act.findGroupByName id).mapError .ofStore
  | some n =>
    match ← (Act.findGroupById n).mapError .ofStore with
    | some g => return some g
    | none => (Act.findGroupByName id).mapError .ofStore

def findGroupReference (id : String) : Act ApiError (Option GroupReference) := do
  match GroupReference.external? id with
  | some g => return some g
  | none =>
    match Uuid.parse? id with
    | some uuid => return (← findGroup uuid).map .stored
    | none => return (← findGroupByNumberOrName id).map .stored

def openGroup (settings : Settings) (caller : Caller) (id : String) : Act ApiError OpenGroup := do
  match ← findGroupReference id with
  | none => Act.fail (.groupMissing id)
  | some g =>
    let access ← groupAccess settings caller g
    if access.isVisible then return ⟨g, access⟩ else Act.fail (.groupMissing id)

end CodeReview
