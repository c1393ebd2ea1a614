import CodeReview.Command.Path
import CodeReview.Store.Saved
set_option autoImplicit false

/-!
The files that a command can reach, by their paths, among them folders and databases. A path is
followed name by name, and each name but the last one must be that of a folder. A file is read as
text.
-/
namespace CodeReview.Command

/-- What can stand at a path. The empty device has no content and keeps none. -/
inductive File where
  | bytes (content : List UInt8)
  | database (kept : SavedStore)
  | emptyDevice
  | folder
  deriving DecidableEq, Repr

structure Folder where
  files : List (Path × File)
  deriving DecidableEq, Repr

inductive FileError where
  | missing
  | isFolder
  | inFile
  | longName
  | notText
  deriving DecidableEq, Repr

def FileError.message : FileError → String
  | .missing => "No such file or directory (os error 2)"
  | .isFolder => "Is a directory (os error 21)"
  | .inFile => "Not a directory (os error 20)"
  | .longName => "File name too long (os error 36)"
  | .notText => "stream did not contain valid UTF-8"

def longestName : Nat := 255

def longestPath : Nat := 4095

namespace Folder

def empty : Folder :=
  ⟨[]⟩

/-- The folders that stand at the top of every system. -/
def systemFolders : List String :=
  ["bin", "dev", "etc", "home", "lib", "opt", "proc", "root", "run", "sbin", "sys", "tmp", "usr",
    "var"]

/-- What stands at a path before anything is put anywhere. -/
def standing? (p : Path) : Option File :=
  if p.names = [] then some .folder
  else if p = .ofText "/dev/null" then some .emptyDevice
  else if systemFolders.any fun name => p = .ofText ("/" ++ name) then some .folder
  else none

def file? (f : Folder) (p : Path) : Option File :=
  match f.files.find? fun e => e.1 = p with
  | some e => some e.2
  | none => standing? p

def erase (f : Folder) (p : Path) : Folder :=
  ⟨f.files.filter fun e => e.1 ≠ p⟩

def put (f : Folder) (p : Path) (file : File) : Folder :=
  ⟨(p, file) :: (f.erase p).files⟩

/-- Goes on by one part of a path, which only a folder allows. -/
def step (f : Folder) (here : Path) (part : List UInt8) : Except FileError Path :=
  match f.file? here with
  | none => .error .missing
  | some .folder => if longestName < part.length then .error .longName else .ok (here.join part)
  | some _ => .error .inFile

def follow (f : Folder) (start : Path) (parts : List (List UInt8)) : Except FileError File :=
  match parts.foldlM f.step start with
  | .error e => .error e
  | .ok p =>
    match f.file? p with
    | some file => .ok file
    | none => .error .missing

def find (f : Folder) (text : String) : Except FileError File :=
  let bytes := Text.Utf8.bytes text
  if bytes = [] then .error .missing
  else if longestPath < bytes.length then .error .longName
  else f.follow (.start bytes) (pathParts bytes)

def stat (f : Folder) (p : Path) : Except FileError File :=
  f.follow { p with names := [] } p.names

/-- How the file of a database starts, which is all there is before there are tables. -/
def startOfDatabase : String := "SQLite format 3\x00"

def readText (f : Folder) (path : String) : Except FileError String := do
  match ← f.find path with
  | .folder => .error .isFolder
  | .database kept => if kept.tables = none then .ok startOfDatabase else .error .notText
  | .emptyDevice => .ok ""
  | .bytes content =>
    match Text.Utf8.decode? content with
    | some cs => .ok (String.ofList cs)
    | none => .error .notText

end Folder

end CodeReview.Command
