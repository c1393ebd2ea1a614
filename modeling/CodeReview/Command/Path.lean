import CodeReview.Text.Blank
import CodeReview.Text.Utf8
set_option autoImplicit false

/-!
Paths of files. A path starts at the top or at the working folder, or above the working folder
by as many folders as it goes up from there, and its names are bytes.
-/
namespace CodeReview.Command

inductive Root where
  | top
  | working (above : Nat)
  deriving DecidableEq, Repr

structure Path where
  root : Root
  names : List (List UInt8)
  deriving DecidableEq, Repr

def pathParts (bytes : List UInt8) : List (List UInt8) :=
  Text.split 0x2f bytes

/-- A part that stays where it is: nothing, or one point. -/
def isHere (part : List UInt8) : Bool :=
  part = [] || part = [0x2e]

/-- Two points go to the folder around. -/
def isParent (part : List UInt8) : Bool :=
  part = [0x2e, 0x2e]

namespace Path

def start (bytes : List UInt8) : Path :=
  ⟨if bytes.head? = some 0x2f then .top else .working 0, []⟩

/-- The folder around; that of the top is the top itself. -/
def parent (p : Path) : Path :=
  match p.names, p.root with
  | [], .working above => ⟨.working (above + 1), []⟩
  | names, root => ⟨root, names.dropLast⟩

def child (p : Path) (name : List UInt8) : Path :=
  { p with names := p.names ++ [name] }

def join (p : Path) (part : List UInt8) : Path :=
  if isHere part then p else if isParent part then p.parent else p.child part

def ofBytes (bytes : List UInt8) : Path :=
  (pathParts bytes).foldl join (start bytes)

def ofText (text : String) : Path :=
  ofBytes (Text.Utf8.bytes text)

def length (p : Path) : Nat :=
  (p.names.map fun n => n.length + 1).foldl (· + ·) 0

def beside (p : Path) (ending : String) : Path :=
  { p with names := p.names.dropLast ++ [(p.names.getLast?.getD []) ++ Text.Utf8.bytes ending] }

end Path

end CodeReview.Command
