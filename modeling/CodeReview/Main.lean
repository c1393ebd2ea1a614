import CodeReview.Command.Run
set_option autoImplicit false

/-!
The command line. It reads the files that a command names, runs the command on them, writes what
has changed back and prints the result or the error. A usage error ends with status 2 and says
nothing more. No gateway is reached from here, so users of a directory are unknown to it.
-/
namespace CodeReview.Command

def fileOfBytes (content : List UInt8) : File :=
  match (Text.Utf8.decode? content).bind fun cs => SavedStore.ofText? (String.ofList cs) with
  | some kept => .database kept
  | none => .bytes content

/-- The file at a path, if there is one. What is there but cannot be read is taken for a
folder. -/
def loadFile (path : String) : IO (Option File) := do
  try
    return some (fileOfBytes (← IO.FS.readBinFile path).toList)
  catch e =>
    match e with
    | .noFileOrDirectory _ _ _ => return none
    | _ => return some .folder

def Path.text (p : Path) : String :=
  let start := match p.root with
    | .top => "/"
    | .working above => "./" ++ String.join (List.replicate above "../")
  start ++ "/".intercalate (p.names.map fun n => String.ofList (Text.Utf8.decodeLenient n))

def waysTo (bytes : List UInt8) : List Path :=
  let parts := pathParts bytes
  (List.range (parts.length + 1)).map fun n => (parts.take n).foldl Path.join (.start bytes)

def Invocation.paths (i : Invocation) : List Path :=
  let database := match Location.ofText i.database with
    | .ok l =>
      let p := Path.ofBytes l.path
      waysTo l.path ++ [p.beside OpenDatabase.logEnding, p.beside OpenDatabase.indexEnding,
        p.beside OpenDatabase.journalEnding]
    | .error _ => []
  database ++ match i.command with
    | .importChange file => waysTo (Text.Utf8.bytes file)
    | _ => []

def loadFolder (paths : List Path) : IO Folder := do
  let mut folder := Folder.empty
  for p in paths.filter fun p => Folder.standing? p = none do
    match ← loadFile p.text with
    | some file => folder := folder.put p file
    | none => folder := folder
  return folder

def saveFolder (before after : Folder) (paths : List Path) : IO Unit := do
  for p in paths do
    if after.file? p ≠ before.file? p then
      match after.file? p with
      | some (.database kept) => IO.FS.writeFile p.text kept.text
      | some (.bytes content) => IO.FS.writeBinFile p.text ⟨content.toArray⟩
      | some _ => return ()
      | none => IO.FS.removeFile p.text

def loadVariables : IO (List (String × String)) :=
  Settings.names.filterMapM fun name => do
    return (← IO.getEnv name).map (name, ·)

def randomUuid : IO Uuid := do
  match Uuid.ofRandom? (← IO.getRandomBytes 16).toList with
  | some u => return u
  | none => throw (IO.userError "no random bytes")

def runInvocation (i : Invocation) : IO UInt32 := do
  let settings ← loadVariables
  let folder ← loadFolder i.paths
  let uuid ← randomUuid
  let ending := i.run ⟨fun name => (settings.find? fun v => v.1 = name).map Prod.snd,
    fun _ => .unreachable, uuid, folder⟩
  saveFolder folder ending.folder i.paths
  match ending.outcome with
  | .ok j =>
    IO.print (printed j)
    return 0
  | .error f =>
    IO.eprintln ("Error: " ++ f.message)
    return UInt32.ofNat f.status

end CodeReview.Command

open CodeReview.Command in
def main (arguments : List String) : IO UInt32 := do
  match Invocation.ofArguments? arguments with
  | some i => runInvocation i
  | none => return 2
