import CodeReview.Store.Error
import CodeReview.Text.Blank
import CodeReview.Text.Numeral
import CodeReview.Text.Utf8
set_option autoImplicit false

/-!
Where a database is, as a text says it. A text is the path of a file, or an address that starts
with `file:` and goes on with a path and options. In an address, escapes are undone, an escaped
NUL ends the part it stands in, and a number sign ends everything. Options that mean nothing are
left alone.
-/
namespace CodeReview.Command

/-- What may be done with the file: read it, change it, or make it too. A database in memory has
no file. -/
inductive Access where
  | read
  | change
  | make
  | memory
  deriving DecidableEq, Repr

/-- How files are reached: with locks, with one lock for as long as a database is open, without
locks that others respect, or not at all, when a database is in memory. -/
inductive System where
  | shared
  | exclusive
  | unguarded
  | memory
  deriving DecidableEq, Repr

/-- A database whose file is fixed is only read. Without locks it has no log beside it. The index
of the log can be left as it is, and a new file can be asked to be like some other file. -/
structure Location where
  path : List UInt8
  access : Access
  system : System
  fixed : Bool
  locks : Bool
  leavesIndex : Bool
  model : Option String
  deriving DecidableEq, Repr

namespace Access

def named : List (String × Access) :=
  [("ro", .read), ("rw", .change), ("rwc", .make), ("memory", .memory)]

/-- An access gives way to the ones of its own rank and below, and that of memory to all. -/
def rank : Access → Nat
  | .read => 1
  | .change => 2
  | .make => 6
  | .memory => 128

/-- Whether a file that is asked for with one access may be asked for with another one later. -/
def allows (before after : Access) : Bool :=
  after = .memory || after.rank ≤ before.rank

end Access

namespace Location

def unescape : List UInt8 → List UInt8
  | [] => []
  | 0x25 :: h :: l :: bs =>
    let digit (b : UInt8) : Option Nat := Text.Numeral.digit? 16 (Char.ofNat b.toNat)
    match digit h, digit l with
    | some 0, some 0 => []
    | some a, some b => UInt8.ofNat (16 * a + b) :: unescape bs
    | _, _ => 0x25 :: unescape (h :: l :: bs)
  | b :: bs => b :: unescape bs

/-- Splits bytes at the first occurrence of a mark, which belongs to neither part. -/
def splitAt (mark : UInt8) (bs : List UInt8) : List UInt8 × List UInt8 :=
  (bs.takeWhile (· ≠ mark), (bs.dropWhile (· ≠ mark)).drop 1)

def textOf (bs : List UInt8) : String :=
  String.ofList (Text.Utf8.decodeLenient bs)

/-- The options of an address by name, with ampersands between them; one without a name is none. -/
def options (query : List UInt8) : List (String × String) :=
  (((Text.split 0x26 query).map fun p =>
    let (name, value) := splitAt 0x3d p
    (unescape name, unescape value)).filter fun o => o.1 ≠ []).map
      fun o => (textOf o.1, textOf o.2)

/-- The number that a text starts with, which can be written in base sixteen. One of 2³¹ or more
is none. -/
def leadingNumber (cs : List Char) : Nat :=
  let isHex (c : Char) : Bool := (Text.Numeral.digit? 16 c).isSome
  let below (base : Nat) (digits : List Char) : Nat :=
    match Text.Numeral.digits base ((1 <<< 31) - 1) 0 digits with
    | .ok n => n
    | .error _ => 0
  match cs with
  | '0' :: x :: d :: rest =>
    if (x = 'x' ∨ x = 'X') ∧ isHex d then below 16 ((d :: rest).takeWhile isHex)
    else below 10 (cs.takeWhile Char.isDigit)
  | _ => below 10 (cs.takeWhile Char.isDigit)

/-- Whether an option says yes: with a number that is not a multiple of 256, or with a word. -/
def saysYes (value : String) : Bool :=
  match value.toList with
  | c :: cs =>
    if c.isDigit then leadingNumber (c :: cs) % 256 ≠ 0
    else ["on", "yes", "true"].any (Text.sameFolded value)
  | [] => false

def value? (name : String) (options : List (String × String)) : Option String :=
  (options.find? fun o => o.1 = name).map Prod.snd

def isOn (name : String) (options : List (String × String)) : Bool :=
  (value? name options).any saysYes

def systems : List (String × System) :=
  [("unix", .shared), ("unix-excl", .exclusive), ("unix-none", .unguarded),
    ("unix-dotfile", .unguarded), ("memdb", .memory)]

def readOption (access : Access) (o : String × String) : Except String Access :=
  if o.1 = "mode" then
    match Access.named.find? fun a => a.1 = o.2 with
    | none => .error ("no such access mode: " ++ o.2)
    | some a =>
      if access.allows a.2 then .ok a.2 else .error ("access mode not allowed: " ++ o.2)
  else if o.1 = "cache" ∧ o.2 ≠ "shared" ∧ o.2 ≠ "private" then
    .error ("no such cache mode: " ++ o.2)
  else .ok access

def ofOptions (path : List UInt8) (options : List (String × String)) : Except String Location := do
  let access ← options.foldlM readOption .make
  let system := ((options.filter fun o => o.1 = "vfs").getLast?.map Prod.snd).getD "unix"
  match systems.find? fun s => s.1 = system with
  | none => .error ("no such vfs: " ++ system)
  | some (_, system) =>
    .ok {
      path, access, system
      fixed := isOn "immutable" options
      locks := !isOn "nolock" options
      leavesIndex := isOn "readonly_shm" options
      model := value? "modeof" options }

/-- The path and the options of an address after its start. Only this machine may be named as
the host. -/
def ofAddress (bs : List UInt8) : Except String Location := do
  let bs ← match bs with
    | 0x2f :: 0x2f :: rest =>
      let host := rest.takeWhile (· ≠ 0x2f)
      if host = [] ∨ host = Text.Utf8.bytes "localhost" then .ok (rest.dropWhile (· ≠ 0x2f))
      else .error ("invalid uri authority: " ++ textOf host)
    | _ => .ok bs
  let (path, query) := splitAt 0x3f (bs.takeWhile (· ≠ 0x23))
  ofOptions (unescape path) (options query)

def ofText (text : String) : Except StoreError Location :=
  match Text.stripStart "file:".toList text.toList with
  | some rest => (ofAddress (Text.Utf8.encode rest)).mapError .database
  | none => .ok ⟨Text.Utf8.bytes text, .make, .shared, false, true, false, none⟩

def isTemporary (l : Location) : Bool :=
  l.access = .memory || l.path = [] || l.path = Text.Utf8.bytes ":memory:"

/-- Nothing is written to a fixed file, or where there is access for reading only. -/
def isReadOnly (l : Location) : Bool :=
  l.fixed || l.access = .read

def canLog (l : Location) : Bool :=
  (l.system = .shared || l.system = .exclusive) && l.locks && !l.fixed

/-- Whether the index of the log is a file: who keeps everybody else out needs none. -/
def hasIndex (l : Location) : Bool :=
  l.system ≠ .exclusive || l.access = .read

end Location

end CodeReview.Command
