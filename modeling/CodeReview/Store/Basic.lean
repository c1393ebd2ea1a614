import CodeReview.Store.Memory
import CodeReview.Store.Tables
set_option autoImplicit false

/-!
The store of a site, in lists or in tables. Both kinds answer the same calls; a call that is
refused leaves the store as it was.
-/
namespace CodeReview

inductive Store where
  | memory (s : MemoryStore)
  | tables (s : TableStore)
  deriving DecidableEq, Repr

inductive StoreCall where
  | insertChange
  | updateChange
  | getChange
  | findByKey
  | metaHistory
  | createAccount
  | getAccount
  | findByUsername
  | findByEmail
  | findByFullName
  | setActive
  | createGroup
  | getGroup
  | findGroupByName
  | findGroupById
  | updateMembers
  | groupsContaining
  | deleteGroup
  deriving DecidableEq, Repr

namespace Store

def ofMemory {α : Type} (r : Except StoreError (α × MemoryStore)) :
    Except StoreError (α × Store) :=
  r.map fun p => (p.1, .memory p.2)

def ofTables {α : Type} (r : Except StoreError (α × TableStore)) :
    Except StoreError (α × Store) :=
  r.map fun p => (p.1, .tables p.2)

def insertChange (s : Store) (c : Change) : Except StoreError (ObjectId × Store) :=
  match s with
  | .memory m => ofMemory (m.insertChange c)
  | .tables t => ofTables (t.insertChange c)

def updateChange (s : Store) (c : Change) : Except StoreError (ObjectId × Store) :=
  match s with
  | .memory m => ofMemory (m.updateChange c)
  | .tables t => ofTables (t.updateChange c)

def getChange (s : Store) (n : ChangeNumber) (pin : Option ObjectId) :
    Except StoreError Snapshot :=
  match s with
  | .memory m => m.getChange n pin
  | .tables t => t.getChange n pin

def findByKey (s : Store) (key : String) : List ChangeNumber :=
  match s with
  | .memory m => m.findByKey key
  | .tables t => t.findByKey key

def metaHistory (s : Store) (n : ChangeNumber) : Except StoreError (List ObjectId) :=
  match s with
  | .memory m => m.metaHistory n
  | .tables t => t.metaHistory n

def createAccount (s : Store) (a : NewAccount) : Except StoreError (Account × Store) :=
  match s with
  | .memory m => ofMemory (m.createAccount a)
  | .tables t => ofTables (t.createAccount a)

def getAccount (s : Store) (id : AccountId) : Except StoreError Account :=
  match s with
  | .memory m => m.getAccount id
  | .tables t => t.getAccount id

def findByUsername (s : Store) (name : String) : Option Account :=
  match s with
  | .memory m => m.findByUsername name
  | .tables t => t.findByUsername name

def findByEmail (s : Store) (email : String) : List Account :=
  match s with
  | .memory m => m.findByEmail email
  | .tables t => t.findByEmail email

def findByFullName (s : Store) (name : String) : List Account :=
  match s with
  | .memory m => m.findByFullName name
  | .tables t => t.findByFullName name

def setActive (s : Store) (id : AccountId) (active : Bool) : Except StoreError (Unit × Store) :=
  match s with
  | .memory m => ofMemory (m.setActive id active)
  | .tables t => ofTables (t.setActive id active)

def createGroup (s : Store) (uuid : Uuid) (g : NewGroup) : Except StoreError (Group × Store) :=
  match s with
  | .memory m => ofMemory (m.createGroup uuid g)
  | .tables t => ofTables (t.createGroup uuid g)

def getGroup (s : Store) (uuid : Uuid) : Except StoreError Group :=
  match s with
  | .memory m => m.getGroup uuid
  | .tables t => t.getGroup uuid

def findGroupByName (s : Store) (name : String) : Option Group :=
  match s with
  | .memory m => m.findGroupByName name
  | .tables t => t.findGroupByName name

def findGroupById (s : Store) (id : GroupNumber) : Option Group :=
  match s with
  | .memory m => m.findGroupById id
  | .tables t => t.findGroupById id

def updateMembers (s : Store) (uuid : Uuid) (modify : AccountSet → AccountSet) :
    Except StoreError (Group × Store) :=
  match s with
  | .memory m => ofMemory (m.updateMembers uuid modify)
  | .tables t => ofTables (t.updateMembers uuid modify)

def groupsContaining (s : Store) (id : AccountId) : List Uuid :=
  match s with
  | .memory m => m.groupsContaining id
  | .tables t => t.groupsContaining id

def deleteGroup (s : Store) (uuid : Uuid) : Except StoreError (Unit × Store) :=
  match s with
  | .memory m => ofMemory (m.deleteGroup uuid)
  | .tables t => ofTables (t.deleteGroup uuid)

end Store

end CodeReview
