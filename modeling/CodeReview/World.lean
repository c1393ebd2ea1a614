import CodeReview.Store.Basic
import CodeReview.Directory.Basic
set_option autoImplicit false

/-!
The world that requests act on: the store, the store calls that fail, the directory and the
clock. An action may change the world also when it ends in an error. A store call named among
the failing ones ends in an error before it runs, and in a store that is only read a call ends in
an error when it would change something.
-/
namespace CodeReview

structure World where
  store : Store
  failing : List StoreCall
  directory : Directory
  now : Int64
  readOnly : Bool

/-- An action on the world that may end in an error. -/
abbrev Act (ε α : Type) := ExceptT ε (StateM World) α

namespace Act

def run {ε α : Type} (x : Act ε α) (w : World) : Except ε α × World :=
  x w

def fail {ε α : Type} (e : ε) : Act ε α :=
  fun w => (.error e, w)

def ofExcept {ε α : Type} (r : Except ε α) : Act ε α :=
  fun w => (r, w)

/-- The outcome of an action as a value. -/
def outcome {ε δ α : Type} (x : Act ε α) : Act δ (Except ε α) :=
  fun w => ((.ok (x w).1), (x w).2)

def mapError {ε δ α : Type} (f : ε → δ) (x : Act ε α) : Act δ α :=
  fun w => ((x w).1.mapError f, (x w).2)

/-- A store call that reads. -/
def read {α : Type} (call : StoreCall) (f : Store → Except StoreError α) : Act StoreError α :=
  fun w => if call ∈ w.failing then (.error .lockPoisoned, w) else (f w.store, w)

/-- A store call that writes. -/
def write {α : Type} (call : StoreCall) (f : Store → Except StoreError (α × Store)) :
    Act StoreError α :=
  fun w =>
    if call ∈ w.failing then (.error .lockPoisoned, w)
    else match f w.store with
      | .ok (a, s) =>
        if w.readOnly ∧ s ≠ w.store then
          (.error (.database "attempt to write a readonly database"), w)
        else (.ok a, { w with store := s })
      | .error e => (.error e, w)

def insertChange (c : Change) : Act StoreError ObjectId :=
  write .insertChange fun s => s.insertChange c

def updateChange (c : Change) : Act StoreError ObjectId :=
  write .updateChange fun s => s.updateChange c

def getChange (n : ChangeNumber) (pin : Option ObjectId) : Act StoreError Snapshot :=
  read .getChange fun s => s.getChange n pin

def findByKey (key : String) : Act StoreError (List ChangeNumber) :=
  read .findByKey fun s => .ok (s.findByKey key)

def metaHistory (n : ChangeNumber) : Act StoreError (List ObjectId) :=
  read .metaHistory fun s => s.metaHistory n

def createAccount (a : NewAccount) : Act StoreError Account :=
  write .createAccount fun s => s.createAccount a

def getAccount (id : AccountId) : Act StoreError Account :=
  read .getAccount fun s => s.getAccount id

def findByUsername (name : String) : Act StoreError (Option Account) :=
  read .findByUsername fun s => .ok (s.findByUsername name)

def findByEmail (email : String) : Act StoreError (List Account) :=
  read .findByEmail fun s => .ok (s.findByEmail email)

def findByFullName (name : String) : Act StoreError (List Account) :=
  read .findByFullName fun s => .ok (s.findByFullName name)

def setActive (id : AccountId) (active : Bool) : Act StoreError Unit :=
  write .setActive fun s => s.setActive id active

def createGroup (uuid : Uuid) (g : NewGroup) : Act StoreError Group :=
  write .createGroup fun s => s.createGroup uuid g

def getGroup (uuid : Uuid) : Act StoreError Group :=
  read .getGroup fun s => s.getGroup uuid

def findGroupByName (name : String) : Act StoreError (Option Group) :=
  read .findGroupByName fun s => .ok (s.findGroupByName name)

def findGroupById (id : GroupNumber) : Act StoreError (Option Group) :=
  read .findGroupById fun s => .ok (s.findGroupById id)

def updateMembers (uuid : Uuid) (modify : AccountSet → AccountSet) : Act StoreError Group :=
  write .updateMembers fun s => s.updateMembers uuid modify

def groupsContaining (id : AccountId) : Act StoreError (List Uuid) :=
  read .groupsContaining fun s => .ok (s.groupsContaining id)

def deleteGroup (uuid : Uuid) : Act StoreError Unit :=
  write .deleteGroup fun s => s.deleteGroup uuid

def lookupUser (name : String) : Act DirectoryError (Option DirectoryEntry) :=
  fun w => let (r, d) := w.directory.lookup name; (r, { w with directory := d })

def checkPassword (name password : String) : Act DirectoryError Bool :=
  fun w => let (r, d) := w.directory.authenticate name password; (r, { w with directory := d })

def now {ε : Type} : Act ε Int64 :=
  fun w => (.ok w.now, w)

end Act

end CodeReview
