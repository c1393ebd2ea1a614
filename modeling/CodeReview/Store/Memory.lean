import CodeReview.Account
import CodeReview.Group
import CodeReview.Snapshot
import CodeReview.Store.Error
set_option autoImplicit false

/-!
A store held in lists. Ids of accounts and groups come from counters of 32 bits, so the id of a
deleted group is not given again before the counter of groups has gone round. A change is the list
of its snapshots, the oldest first.
-/
namespace CodeReview

structure History where
  change : ChangeNumber
  snapshots : List Snapshot
  deriving DecidableEq, Repr

structure MemoryStore where
  accounts : List Account
  nextAccount : UInt32
  groups : List Group
  nextGroup : UInt32
  changes : List History
  deriving DecidableEq, Repr

/-- The first account and the first group of a store. -/
def firstAccount : UInt32 := 1000
def firstGroup : UInt32 := 1

/-- Inserts a number before the first greater one. -/
def insertNumber (n : ChangeNumber) : List ChangeNumber → List ChangeNumber
  | [] => [n]
  | m :: ms => if n.number ≤ m.number then n :: m :: ms else m :: insertNumber n ms

def sortNumbers (ns : List ChangeNumber) : List ChangeNumber :=
  ns.foldr insertNumber []

def insertUuid (u : Uuid) : List Uuid → List Uuid
  | [] => [u]
  | v :: vs => if v.before u then v :: insertUuid u vs else u :: v :: vs

def sortUuids (us : List Uuid) : List Uuid :=
  us.foldr insertUuid []

namespace MemoryStore

def empty : MemoryStore :=
  ⟨[], firstAccount, [], firstGroup, []⟩

def history? (s : MemoryStore) (n : ChangeNumber) : Option History :=
  s.changes.find? fun h => h.change = n

def insertChange (s : MemoryStore) (c : Change) : Except StoreError (ObjectId × MemoryStore) :=
  match s.history? c.id with
  | some _ => .error (.duplicateChange c.id)
  | none =>
    let id := Snapshot.idOf none c
    .ok (id, { s with changes := s.changes ++ [⟨c.id, [⟨id, c⟩]⟩] })

def updateChange (s : MemoryStore) (c : Change) : Except StoreError (ObjectId × MemoryStore) :=
  match s.history? c.id with
  | none => .error (.changeNotFound c.id)
  | some h =>
    let id := Snapshot.idOf (h.snapshots.getLast?.map Snapshot.metaId) c
    .ok (id, { s with changes := s.changes.map fun h =>
      if h.change = c.id then { h with snapshots := h.snapshots ++ [⟨id, c⟩] } else h })

def getChange (s : MemoryStore) (n : ChangeNumber) (pin : Option ObjectId) :
    Except StoreError Snapshot :=
  match s.history? n with
  | none => .error (.changeNotFound n)
  | some h =>
    let found := match pin with
      | none => h.snapshots.getLast?
      | some id => h.snapshots.find? fun x => x.metaId = id
    match found with
    | some x => .ok x
    | none => .error (.missingMeta n ((pin.map ObjectId.hex).getD ""))

def findByKey (s : MemoryStore) (key : String) : List ChangeNumber :=
  sortNumbers ((s.changes.filter fun h =>
    h.snapshots.getLast?.any fun x => x.state.key = key).map History.change)

def metaHistory (s : MemoryStore) (n : ChangeNumber) : Except StoreError (List ObjectId) :=
  match s.history? n with
  | none => .error (.changeNotFound n)
  | some h => .ok (h.snapshots.map Snapshot.metaId)

def usernameTaken (s : MemoryStore) (name : String) : Bool :=
  s.accounts.any fun a => a.username = some name

/-- The counter of accounts is taken to be checked for overflow, as in a build for tests: the
account that would take it past the last number is not made, and the call ends as it does once the
lock of the accounts is poisoned. Without the check the counter would go on at zero. -/
def createAccount (s : MemoryStore) (a : NewAccount) : Except StoreError (Account × MemoryStore) :=
  match a.username.filter s.usernameTaken with
  | some name => .error (.duplicateUsername name)
  | none =>
    if s.nextAccount.toNat + 1 = UInt32.size then .error .lockPoisoned
    else
      let created := a.withId ⟨s.nextAccount⟩
      .ok (created,
        { s with accounts := s.accounts ++ [created], nextAccount := s.nextAccount + 1 })

def account? (s : MemoryStore) (id : AccountId) : Option Account :=
  s.accounts.find? fun a => a.id = id

def getAccount (s : MemoryStore) (id : AccountId) : Except StoreError Account :=
  match s.account? id with
  | some a => .ok a
  | none => .error (.accountNotFound id)

def findByUsername (s : MemoryStore) (name : String) : Option Account :=
  s.accounts.find? fun a => a.username = some name

def findByEmail (s : MemoryStore) (email : String) : List Account :=
  s.accounts.filter fun a => a.preferredEmail.any fun e => Text.sameFolded e email

def findByFullName (s : MemoryStore) (name : String) : List Account :=
  s.accounts.filter fun a => a.fullName = some name

def setActive (s : MemoryStore) (id : AccountId) (active : Bool) :
    Except StoreError (Unit × MemoryStore) :=
  match s.account? id with
  | none => .error (.accountNotFound id)
  | some _ =>
    .ok ((), { s with accounts := s.accounts.map fun a =>
      if a.id = id then { a with active := active } else a })

def group? (s : MemoryStore) (uuid : Uuid) : Option Group :=
  s.groups.find? fun g => g.uuid = uuid

def findGroupByName (s : MemoryStore) (name : String) : Option Group :=
  s.groups.find? fun g => g.name = name

def findGroupById (s : MemoryStore) (id : GroupNumber) : Option Group :=
  s.groups.find? fun g => g.id = id

/-- Creates a group under an id that the caller draws at random. -/
def createGroup (s : MemoryStore) (uuid : Uuid) (g : NewGroup) :
    Except StoreError (Group × MemoryStore) :=
  match s.findGroupByName g.name with
  | some _ => .error (.duplicateGroupName g.name)
  | none =>
    match g.owner.filter fun o => (s.group? o).isNone with
    | some missing => .error (.groupNotFound missing.text)
    | none =>
      let created := g.withIds uuid ⟨s.nextGroup⟩
      .ok (created, { s with
        groups := (s.groups.filter fun g => g.uuid ≠ uuid) ++ [created],
        nextGroup := s.nextGroup + 1 })

def getGroup (s : MemoryStore) (uuid : Uuid) : Except StoreError Group :=
  match s.group? uuid with
  | some g => .ok g
  | none => .error (.groupNotFound uuid.text)

/-- Replaces the members of a group by what the modification makes of them. -/
def updateMembers (s : MemoryStore) (uuid : Uuid) (modify : AccountSet → AccountSet) :
    Except StoreError (Group × MemoryStore) :=
  match s.group? uuid with
  | none => .error (.groupNotFound uuid.text)
  | some g =>
    .ok ({ g with members := modify g.members }, { s with groups := s.groups.map fun g =>
      if g.uuid = uuid then { g with members := modify g.members } else g })

def groupsContaining (s : MemoryStore) (id : AccountId) : List Uuid :=
  sortUuids ((s.groups.filter fun g => g.hasMember id).map Group.uuid)

def deleteGroup (s : MemoryStore) (uuid : Uuid) : Except StoreError (Unit × MemoryStore) :=
  match s.group? uuid with
  | none => .error (.groupNotFound uuid.text)
  | some _ => .ok ((), { s with groups := s.groups.filter fun g => g.uuid ≠ uuid })

end MemoryStore

end CodeReview
