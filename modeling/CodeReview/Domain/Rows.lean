import CodeReview.Text.Blank
set_option autoImplicit false

/-!
Tables of characters, written in short rows. A row is a list of words with blanks between them; a
number is written in base 36, most significant digit first.
-/
namespace CodeReview.Domain.Rows

def digit (c : Char) : Nat :=
  if c.isDigit then c.toNat - '0'.toNat else c.toNat - 'a'.toNat + 10

def number (cs : List Char) : Nat :=
  cs.foldl (fun n c => 36 * n + digit c) 0

def words (row : String) : List (List Char) :=
  Text.split ' ' row.toList

/-- The parts of a word before and after a mark; without one the first part is empty. -/
def around (mark : Char) (word : List Char) : List Char × List Char :=
  if word.contains mark then
    (word.takeWhile (· ≠ mark), (word.dropWhile (· ≠ mark)).drop 1)
  else ([], word)

/-- Code points from the first to the last one. -/
structure Span where
  first : Nat
  last : Nat
  deriving DecidableEq, Repr

/-- A span is written as its first code point, with a plus sign and the distance of the last one
if there are more. -/
def Span.read (word : List Char) : Span :=
  let first := number (word.takeWhile (· ≠ '+'))
  ⟨first, first + number ((word.dropWhile (· ≠ '+')).drop 1)⟩

def Span.has (s : Span) (c : Char) : Bool :=
  s.first ≤ c.toNat && c.toNat ≤ s.last

def spans (rows : List String) : List Span :=
  rows.flatMap fun row => (words row).map Span.read

def within (spans : List Span) (c : Char) : Bool :=
  spans.any (·.has c)

end CodeReview.Domain.Rows
