import CodeReview.Command.Folder
import CodeReview.Command.Location
import CodeReview.Store.Schema
set_option autoImplicit false

/-!
Databases in files. A database is opened where it is, or made in a folder where there is nothing
yet; a file of at most one byte is an empty database, and a file with more in it that is no
database is refused. While a database is open, there are files beside it: a log of what was
written, which is taken over into the database at its end, and the index of the log. An attempt
that fails leaves the files that it has made.
-/
namespace CodeReview.Command

/-- An open database, the files that go when it is closed, and the folder as it is meanwhile. -/
structure OpenDatabase where
  tables : TableStore
  readOnly : Bool
  place : Option Path
  logs : Bool
  beside : List Path
  folder : Folder

namespace OpenDatabase

def diskError : StoreError :=
  .database "disk I/O error"

def notWritable : StoreError :=
  .database FileFault.readOnly.message

def cannotOpen : StoreError :=
  .database FileFault.cannotOpen.message

def notFound (text : String) : StoreError :=
  .database ("unable to open database file: " ++ text)

def logEnding : String := "-wal"

def indexEnding : String := "-shm"

/-- The ending of the file that undoes what was written without a log. -/
def journalEnding : String := "-journal"

/-- How a log starts, which is no text. -/
def startOfLog : List UInt8 :=
  [0x37, 0x7f, 0x06, 0x82]

def startOfIndex : List UInt8 :=
  [0x18, 0xe2, 0x2d, 0x00]

def longestPlace : Nat := 504

def longestWay : Nat := 510

/-- One step to the place of a database. A name on the way may be missing, when the way goes
back from there. -/
def stepToPlace (f : Folder) (here : Path) (part : List UInt8) : Option Path :=
  let next := here.join part
  if isHere part || isParent part then some next
  else if longestWay < next.length then none
  else match f.stat next with
    | .ok _ => some next
    | .error .missing => some next
    | .error _ => none

def place? (f : Folder) (bytes : List UInt8) : Option Path :=
  match (pathParts bytes).foldlM (stepToPlace f) (.start bytes) with
  | some p => if longestPlace < p.length ∨ p = ⟨.top, []⟩ then none else some p
  | none => none

def hasLongName (p : Path) : Bool :=
  longestName < ((p.beside journalEnding).names.getLast?.getD []).length

/-- A file that could undo what was written is used up. -/
def dropJournal (f : Folder) (p : Path) : Folder :=
  match f.file? (p.beside journalEnding) with
  | some (.bytes (b :: _)) => if b = 0 then f else f.erase (p.beside journalEnding)
  | _ => f

def hasLog (f : Folder) (p : Path) : Bool :=
  match f.file? (p.beside logEnding) with
  | none => false
  | some file => file ≠ .bytes []

/-- What is in the log of a database is kept until the database is closed. -/
def withLog (f : Folder) (p : Path) : Folder :=
  match f.file? (p.beside logEnding) with
  | some (.bytes _) => f
  | _ => f.put (p.beside logEnding) (.bytes [])

/-- Opens the index of a log, and tells whether the log can only be read then. -/
def openIndex (f : Folder) (l : Location) (p : Path) : Bool × Option Folder :=
  if !l.hasIndex then (false, some f)
  else if l.leavesIndex then
    (true, if (f.file? (p.beside indexEnding)).isSome then some f else none)
  else (l.access = .read, some (f.put (p.beside indexEnding) (.bytes startOfIndex)))

/-- Opens a database that has a log, and is kept as given. When there are no tables yet, they go
into the log. `report` tells of a fault with the index. -/
def openLogged (f : Folder) (l : Location) (p : Path) (kept : SavedStore)
    (report : FileFault → StoreError) : Except StoreError OpenDatabase × Folder :=
  let f := withLog f p
  match openIndex f l p with
  | (_, none) => (.error (report .cannotOpen), f)
  | (readOnly, some f) =>
    let log := p.beside logEnding
    let beside := if l.hasIndex then [log, p.beside indexEnding] else [log]
    match kept.tables with
    | some t => (.ok ⟨t, readOnly, some p, kept.logs, beside, f⟩, f)
    | none =>
      if readOnly then (.error (Schema.refused .readOnly), f)
      else
        let f := f.put log (.bytes startOfLog)
        (.ok ⟨.empty, false, some p, kept.logs, beside, f⟩, f)

/-- A database that is made now, in an empty file. What is in a log is none of its own. -/
def make (f : Folder) (l : Location) (p : Path) : Except StoreError OpenDatabase × Folder :=
  let f := if !l.fixed ∧ hasLog f p then f.erase (p.beside logEnding) else f
  let made (kept : SavedStore) : Folder :=
    (f.erase (p.beside journalEnding)).put p (.database kept)
  if l.canLog then
    if l.isReadOnly then (.error notWritable, f)
    else if hasLongName p then (.error cannotOpen, f)
    else openLogged (made ⟨none, true⟩) l p ⟨none, true⟩ Schema.interrupted
  else if l.isReadOnly then (.error (Schema.refused .readOnly), f)
  else if hasLongName p then (.error (Schema.refused .cannotOpen), f)
  else
    let f := made ⟨some .empty, false⟩
    (.ok ⟨.empty, false, some p, false, [], f⟩, f)

/-- A file that is no database is refused, after its log was opened if it has one. -/
def refuse (f : Folder) (l : Location) (p : Path) : StoreError × Folder :=
  let notDatabase : StoreError := .database "file is not a database"
  if l.fixed ∨ !hasLog f p then (notDatabase, f)
  else if !l.canLog then (cannotOpen, f)
  else match openIndex f l p with
    | (_, none) => (cannotOpen, f)
    | (_, some f) => (notDatabase, f)

/-- The empty device takes a database as an empty file does, but cannot keep it. -/
def makeOnDevice (l : Location) : StoreError :=
  if l.canLog then if l.isReadOnly then notWritable else diskError
  else if l.isReadOnly then Schema.refused .readOnly
  else Schema.interrupted .notSynced

def reopen (f : Folder) (l : Location) (p : Path) (kept : SavedStore) :
    Except StoreError OpenDatabase × Folder :=
  if l.fixed then
    match kept.tables with
    | some t => (.ok ⟨t, true, some p, kept.logs, [], f⟩, f)
    | none => (.error (Schema.refused .readOnly), f)
  else if kept.logs ∨ hasLog f p then
    if l.canLog then openLogged (dropJournal f p) l p kept fun e => .database e.message
    else (.error cannotOpen, f)
  else if l.canLog then
    if l.access = .read then (.error notWritable, f)
    else
      let kept := { kept with logs := true }
      openLogged ((dropJournal f p).put p (.database kept)) l p kept Schema.interrupted
  else
    let f := dropJournal f p
    (.ok ⟨kept.tables.getD .empty, l.access = .read, some p, false, [], f⟩, f)

/-- Opens a database at its place. An empty file is made first where there is none. -/
def openPlace (f : Folder) (text : String) (l : Location) (p : Path) :
    Except StoreError OpenDatabase × Folder :=
  match f.stat p with
  | .ok .folder => (.error (if l.access = .read then diskError else notFound text), f)
  | .ok .emptyDevice => (.error (makeOnDevice l), f)
  | .ok (.bytes content) =>
    if content.length ≤ 1 then make f l p
    else
      let (e, f) := refuse f l p
      (.error e, f)
  | .ok (.database kept) => reopen f l p kept
  | .error .missing =>
    if l.access = .make ∧ f.file? p.parent = some .folder then make (f.put p (.bytes [])) l p
    else (.error (notFound text), f)
  | .error _ => (.error (notFound text), f)

def unkept (readOnly : Bool) (f : Folder) : Except StoreError OpenDatabase :=
  if readOnly then .error (Schema.refused .readOnly)
  else .ok ⟨.empty, false, none, false, [], f⟩

def hasModel (f : Folder) (l : Location) : Bool :=
  l.model.all fun path => (f.find path).toOption.isSome

/-- Opens the database that a text names. The folder is what an attempt leaves behind. -/
def ofText (f : Folder) (text : String) : Except StoreError OpenDatabase × Folder :=
  match Location.ofText text with
  | .error e => (.error e, f)
  | .ok l =>
    if l.isTemporary then (unkept (l.access = .read) f, f)
    else if l.system = .memory then (unkept l.isReadOnly f, f)
    else match place? f l.path with
      | some p => if hasModel f l then openPlace f text l p else (.error diskError, f)
      | none => (.error (notFound text), f)

def close (d : OpenDatabase) (tables : TableStore) : Folder :=
  match d.place with
  | none => d.folder
  | some p =>
    if d.readOnly then d.folder
    else d.beside.foldl Folder.erase (d.folder.put p (.database ⟨some tables, d.logs⟩))

end OpenDatabase

end CodeReview.Command
