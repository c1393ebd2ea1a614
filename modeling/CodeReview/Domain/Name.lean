import CodeReview.Domain.Direction
import CodeReview.Domain.Joining
import CodeReview.Domain.Mapping
import CodeReview.Domain.Punycode
import CodeReview.Text.Utf8
set_option autoImplicit false

/-!
Names of hosts in ASCII. A name in any script is mapped character by character, composed and cut
at its points into labels. A label beyond ASCII is written in its ASCII form after a mark of four
characters, and a label that has the mark must be the ASCII form of some label. Each of the labels
must be read in one direction.
-/
namespace CodeReview.Domain

def asciiForm : List Char :=
  ['x', 'n', '-', '-']

def isForbidden (c : Char) : Bool :=
  c.toNat ≤ 0x20 || c.toNat = 0x7f || "%#/:<>?@[\\]^|".contains c

/-- The most characters of a label that is written in its ASCII form. -/
def longestLabel : Nat := 1000

/-- The most characters of an ASCII form, without its mark. -/
def longestForm : Nat := 2000

def isShapeless (c : Char) : Bool :=
  Joining.isSeparator c || Joining.isJoiner c

/-- Whether a label beyond ASCII can be one: it stands in its mapped and composed form, begins
with a letter of its own, and has characters without a shape only where they have an effect. -/
def isLabel (table : List Mapping.Run) (cs : List Char) : Bool :=
  cs.all (fun c => Mapping.spelling? table c = some [c]) && Marks.composed cs = cs
    && !(cs.head?.any fun c => Marks.isMark c || isShapeless c)
    && Joining.table.arePlaced Marks.table [] cs

/-- A label of a name, and how it is written in ASCII. -/
structure Label where
  characters : List Char
  ascii : List Char
  deriving DecidableEq, Repr

def label? (table : List Mapping.Run) (label : List Char) : Option Label :=
  match Text.stripStart asciiForm label with
  | some form =>
    if label.all Punycode.isBasic ∧ form.length ≤ longestForm then
      match Punycode.decode form with
      | some cs =>
        if cs.any (!Punycode.isBasic ·) && isLabel table cs then some ⟨cs, label⟩ else none
      | none => none
    else none
  | none =>
    if label.all Punycode.isBasic then some ⟨label, label⟩
    else if label.length ≤ longestLabel ∧ isLabel table label then
      some ⟨label, asciiForm ++ Punycode.encode label⟩
    else none

/-- A name without letters to map. -/
def isPlain (cs : List Char) : Bool :=
  cs.all Punycode.isBasic && (Text.split '.' cs).all fun l => !asciiForm.isPrefixOf l

def asciiLabels? (cs : List Char) : Option (List (List Char)) :=
  let folded := cs.map Text.fold
  if isPlain folded then some (Text.split '.' folded)
  else do
    let table := Mapping.runs
    let mapped ← cs.mapM (Mapping.spelling? table)
    let labels ← (Text.split '.' (Marks.composed mapped.flatten)).mapM (label? table)
    if Direction.agree (labels.map Label.characters) then some (labels.map Label.ascii) else none

def ascii? (cs : List Char) : Option (List Char) := do
  let name := ['.'].intercalate (← asciiLabels? cs)
  if name = [] ∨ name.any isForbidden then none else some name

end CodeReview.Domain
