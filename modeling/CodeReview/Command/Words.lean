set_option autoImplicit false

/-!
The words of a command line. A word is an option, with its value in the same word or in the next
one, or an operand. An option has a long name after two hyphens, a short one after one, or both;
a value may follow a name after an equals sign, and a short name directly. Two hyphens alone end
the options. A value in a word of its own must not look like an option.
-/
namespace CodeReview.Command

inductive Key where
  | database
  | fullName
  | email
  | inactive
  | owner
  | member
  | visible
  | output
  | mask
  | pin
  | caller
  deriving DecidableEq, Repr

/-- How an option is written, and whether it takes a value. A short name always does. -/
structure Rule where
  key : Key
  short : Option Char
  long : Option String
  takesValue : Bool

inductive Word where
  | operand
  | complete (key : Key) (value : String)
  | awaiting (key : Key)
  | invalid
  deriving DecidableEq, Repr

/-- The options with their values and the operands, both in order. -/
structure Words where
  options : List (Key × String)
  operands : List String
  deriving DecidableEq, Repr

namespace Word

def ofLong (rules : List Rule) (cs : List Char) : Word :=
  let name := String.ofList (cs.takeWhile (· ≠ '='))
  match rules.find? (fun r => r.long = some name), cs.dropWhile (· ≠ '=') with
  | none, _ => .invalid
  | some r, [] => if r.takesValue then .awaiting r.key else .complete r.key ""
  | some r, _ :: value => if r.takesValue then .complete r.key (String.ofList value) else .invalid

def ofShort (rules : List Rule) (c : Char) (cs : List Char) : Word :=
  match rules.find? (fun r => r.short = some c), cs with
  | none, _ => .invalid
  | some r, [] => .awaiting r.key
  | some r, '=' :: value => .complete r.key (String.ofList value)
  | some r, value => .complete r.key (String.ofList value)

def read (rules : List Rule) (word : String) : Word :=
  match word.toList with
  | '-' :: '-' :: cs => ofLong rules cs
  | '-' :: c :: cs => ofShort rules c cs
  | _ => .operand

end Word

/-- A word that may stand as the value of an option: a hyphen alone is a value. -/
def isValue (word : String) : Bool :=
  word = "-" || word.toList.head? ≠ some '-'

namespace Words

def addOption (key : Key) (value : String) (w : Words) : Words :=
  { w with options := (key, value) :: w.options }

def addOperand (word : String) (w : Words) : Words :=
  { w with operands := word :: w.operands }

/-- Reads words while an option waits for its value or none does. -/
def read (rules : List Rule) : Option Key → List String → Option Words
  | none, [] => some ⟨[], []⟩
  | some _, [] => none
  | some key, word :: rest =>
    if isValue word then (read rules none rest).map (addOption key word) else none
  | none, word :: rest =>
    if word = "--" then some ⟨[], rest⟩
    else match Word.read rules word with
      | .operand => (read rules none rest).map (addOperand word)
      | .complete key value => (read rules none rest).map (addOption key value)
      | .awaiting key => read rules (some key) rest
      | .invalid => none

/-- Reads the options before the first operand; that operand and all words after it are left. -/
def readHead (rules : List Rule) : Option Key → List String → Option Words
  | none, [] => some ⟨[], []⟩
  | some _, [] => none
  | some key, word :: rest =>
    if isValue word then (readHead rules none rest).map (addOption key word) else none
  | none, word :: rest =>
    if word = "--" then none
    else match Word.read rules word with
      | .operand => some ⟨[], word :: rest⟩
      | .complete key value => (readHead rules none rest).map (addOption key value)
      | .awaiting key => readHead rules (some key) rest
      | .invalid => none

def all (w : Words) (key : Key) : List String :=
  (w.options.filter fun o => o.1 = key).map Prod.snd

/-- The value of an option that may be given once. -/
def single? (w : Words) (key : Key) : Option (Option String) :=
  match w.all key with
  | [] => some none
  | [value] => some (some value)
  | _ => none

def switch? (w : Words) (key : Key) : Option Bool :=
  (w.single? key).map Option.isSome

end Words

end CodeReview.Command
