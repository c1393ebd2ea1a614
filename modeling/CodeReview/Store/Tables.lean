import CodeReview.Store.Memory
import CodeReview.Json.Reader
set_option autoImplicit false

/-!
A store held in tables, as a database keeps it. Ids follow the greatest id in the table, so the
number of a deleted group is given again when it was the greatest. The members of a group are
rows of their own, and an update writes only the rows that differ. The state of a snapshot is
kept as its text and read back on every access.
-/
namespace CodeReview

structure GroupRow where
  uuid : Uuid
  id : GroupNumber
  name : String
  description : Option String
  owner : Uuid
  visibleToAll : Bool
  createdOn : Int64
  deriving DecidableEq, Repr

structure MemberRow where
  group : Uuid
  account : AccountId
  deriving DecidableEq, Repr

structure ChangeRow where
  id : ChangeNumber
  key : String
  current : ObjectId
  deriving DecidableEq, Repr

structure MetaRow where
  id : ObjectId
  change : ChangeNumber
  sequence : Nat
  parent : Option ObjectId
  state : String
  deriving DecidableEq, Repr

structure TableStore where
  accounts : List Account
  groups : List GroupRow
  members : List MemberRow
  changes : List ChangeRow
  metas : List MetaRow
  deriving DecidableEq, Repr

/-- Mail addresses agree when they have the same length and agree letter for letter, case aside,
up to their end or to a NUL character that both have at the same place. -/
def sameUntilNul : List Char → List Char → Bool
  | [], [] => true
  | a :: as, b :: bs =>
    if a = '\x00' ∧ b = '\x00' then true
    else Text.fold a = Text.fold b && sameUntilNul as bs
  | _, _ => false

def sameEmail (a b : String) : Bool :=
  a.utf8ByteSize = b.utf8ByteSize && sameUntilNul a.toList b.toList

/-- The first number when there is none, and otherwise the one after the greatest. -/
def nextNumber (first : Nat) : List UInt32 → Nat
  | [] => first
  | n :: ns => (ns.foldl (fun m k => max m k.toNat) n.toNat) + 1

def column32 (n : Nat) : Except StoreError UInt32 :=
  if n < UInt32.size then .ok (UInt32.ofNat n)
  else .error (.database ("Integer " ++ Text.Numeral.decimalText n ++ " out of range at index 0"))

namespace TableStore

def empty : TableStore :=
  ⟨[], [], [], [], []⟩

def changeExists (s : TableStore) (n : ChangeNumber) : Bool :=
  s.changes.any fun r => r.id = n

/-- Rows are kept in the order of their key. -/
def insertChangeRow (r : ChangeRow) : List ChangeRow → List ChangeRow
  | [] => [r]
  | q :: qs => if r.id.number ≤ q.id.number then r :: q :: qs else q :: insertChangeRow r qs

def insertChange (s : TableStore) (c : Change) : Except StoreError (ObjectId × TableStore) :=
  if s.changeExists c.id then .error (.duplicateChange c.id)
  else
    let id := Snapshot.idOf none c
    .ok (id, { s with
      changes := insertChangeRow ⟨c.id, c.key, id⟩ s.changes,
      metas := s.metas ++ [⟨id, c.id, 0, none, Snapshot.stateText c⟩] })

/-- The row with the greatest sequence number, the first one if there are several. -/
def newest : List MetaRow → Option MetaRow
  | [] => none
  | r :: rs =>
    match newest rs with
    | none => some r
    | some q => if r.sequence < q.sequence then some q else some r

def metasOf (s : TableStore) (n : ChangeNumber) : List MetaRow :=
  s.metas.filter fun r => r.change = n

def head? (s : TableStore) (n : ChangeNumber) : Option MetaRow :=
  newest (s.metasOf n)

def updateChange (s : TableStore) (c : Change) : Except StoreError (ObjectId × TableStore) :=
  match s.head? c.id with
  | none => .error (.changeNotFound c.id)
  | some head =>
    let id := Snapshot.idOf (some head.id) c
    if (s.metasOf c.id).any fun r => r.id = id then
      .error (.database
        "UNIQUE constraint failed: change_meta.change_id, change_meta.meta_id")
    else
      .ok (id, { s with
        metas := s.metas ++ [⟨id, c.id, head.sequence + 1, some head.id, Snapshot.stateText c⟩],
        changes := s.changes.map fun r =>
          if r.id = c.id then { r with key := c.key, current := id } else r })

def readMeta (r : MetaRow) : Except StoreError Snapshot :=
  match (Json.parse r.state).bind Change.ofJson? with
  | some c => .ok ⟨r.id, c⟩
  | none => .error (.serialization "stored state is not a change")

def getChange (s : TableStore) (n : ChangeNumber) (pin : Option ObjectId) :
    Except StoreError Snapshot :=
  if !s.changeExists n then .error (.changeNotFound n)
  else
    let row := match pin with
      | none => s.head? n
      | some id => (s.metasOf n).find? fun r => r.id = id
    match row with
    | some r => readMeta r
    | none => .error (.missingMeta n ((pin.map ObjectId.hex).getD ""))

def findByKey (s : TableStore) (key : String) : List ChangeNumber :=
  (s.changes.filter fun r => r.key = key).map ChangeRow.id

def insertMetaRow (r : MetaRow) : List MetaRow → List MetaRow
  | [] => [r]
  | q :: qs => if r.sequence ≤ q.sequence then r :: q :: qs else q :: insertMetaRow r qs

def metaHistory (s : TableStore) (n : ChangeNumber) : Except StoreError (List ObjectId) :=
  if !s.changeExists n then .error (.changeNotFound n)
  else .ok (((s.metasOf n).foldr insertMetaRow []).map MetaRow.id)

def usernameTaken (s : TableStore) (name : String) : Bool :=
  s.accounts.any fun a => a.username = some name

def createAccount (s : TableStore) (a : NewAccount) : Except StoreError (Account × TableStore) :=
  match a.username.filter s.usernameTaken with
  | some name => .error (.duplicateUsername name)
  | none =>
    match column32 (nextNumber firstAccount.toNat (s.accounts.map fun a => a.id.number)) with
    | .error e => .error e
    | .ok id =>
      let created := a.withId ⟨id⟩
      .ok (created, { s with accounts := s.accounts ++ [created] })

def account? (s : TableStore) (id : AccountId) : Option Account :=
  s.accounts.find? fun a => a.id = id

def getAccount (s : TableStore) (id : AccountId) : Except StoreError Account :=
  match s.account? id with
  | some a => .ok a
  | none => .error (.accountNotFound id)

def findByUsername (s : TableStore) (name : String) : Option Account :=
  s.accounts.find? fun a => a.username = some name

def findByEmail (s : TableStore) (email : String) : List Account :=
  s.accounts.filter fun a => a.preferredEmail.any fun e => sameEmail e email

def findByFullName (s : TableStore) (name : String) : List Account :=
  s.accounts.filter fun a => a.fullName = some name

def setActive (s : TableStore) (id : AccountId) (active : Bool) :
    Except StoreError (Unit × TableStore) :=
  if s.accounts.any fun a => a.id = id then
    .ok ((), { s with accounts := s.accounts.map fun a =>
      if a.id = id then { a with active := active } else a })
  else .error (.accountNotFound id)

def membersOf (s : TableStore) (uuid : Uuid) : AccountSet :=
  AccountSet.ofList ((s.members.filter fun m => m.group = uuid).map MemberRow.account)

def load (s : TableStore) (r : GroupRow) : Group :=
  ⟨r.uuid, r.id, r.name, r.description, r.owner, s.membersOf r.uuid, r.visibleToAll, r.createdOn⟩

def groupExists (s : TableStore) (uuid : Uuid) : Bool :=
  s.groups.any fun r => r.uuid = uuid

def group? (s : TableStore) (uuid : Uuid) : Option Group :=
  (s.groups.find? fun r => r.uuid = uuid).map s.load

def findGroupByName (s : TableStore) (name : String) : Option Group :=
  (s.groups.find? fun r => r.name = name).map s.load

def findGroupById (s : TableStore) (id : GroupNumber) : Option Group :=
  (s.groups.find? fun r => r.id = id).map s.load

/-- Creates a group under an id that the caller draws at random. -/
def createGroup (s : TableStore) (uuid : Uuid) (g : NewGroup) :
    Except StoreError (Group × TableStore) :=
  if s.groups.any fun r => r.name = g.name then .error (.duplicateGroupName g.name)
  else
    match g.owner.filter fun o => !s.groupExists o with
    | some missing => .error (.groupNotFound missing.text)
    | none =>
      match column32 (nextNumber firstGroup.toNat (s.groups.map fun r => r.id.number)) with
      | .error e => .error e
      | .ok id =>
        if s.groupExists uuid then .error (.database "UNIQUE constraint failed: groups.uuid")
        else
          let created := g.withIds uuid ⟨id⟩
          .ok (created, { s with
            groups := s.groups ++ [⟨uuid, ⟨id⟩, created.name, created.description, created.owner,
              created.visibleToAll, created.createdOn⟩],
            members := s.members ++ g.members.ids.map fun a => ⟨uuid, a⟩ })

def getGroup (s : TableStore) (uuid : Uuid) : Except StoreError Group :=
  match s.group? uuid with
  | some g => .ok g
  | none => .error (.groupNotFound uuid.text)

/-- Deletes the rows of the members that the modification drops and adds rows for the new ones. -/
def updateMembers (s : TableStore) (uuid : Uuid) (modify : AccountSet → AccountSet) :
    Except StoreError (Group × TableStore) :=
  if !s.groupExists uuid then .error (.groupNotFound uuid.text)
  else
    let current := s.membersOf uuid
    let next := modify current
    let kept := s.members.filter fun m => m.group ≠ uuid || next.contains m.account
    let added := next.ids.filter fun a => !current.contains a
    let updated := { s with members := kept ++ added.map fun a => ⟨uuid, a⟩ }
    match updated.group? uuid with
    | some g => .ok (g, updated)
    | none => .error (.groupNotFound uuid.text)

def groupsContaining (s : TableStore) (id : AccountId) : List Uuid :=
  sortUuids ((s.members.filter fun m => m.account = id).map MemberRow.group)

/-- Deletes a group together with the rows of its members. -/
def deleteGroup (s : TableStore) (uuid : Uuid) : Except StoreError (Unit × TableStore) :=
  if s.groupExists uuid then
    .ok ((), { s with
      groups := s.groups.filter fun r => r.uuid ≠ uuid,
      members := s.members.filter fun m => m.group ≠ uuid })
  else .error (.groupNotFound uuid.text)

end TableStore

end CodeReview
