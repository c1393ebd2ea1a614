import CodeReview.Domain.Name
import CodeReview.Http.Escape
import CodeReview.Text.Percent
set_option autoImplicit false

/-!
Hosts of addresses. A name whose last label is a number is an address of four bytes, in one to
four numbers of base ten, eight or sixteen, of which the last one fills the bytes that are left.
Text in square brackets is an address of eight pieces, in base sixteen with colons between them;
two colons stand once for pieces of zero, and the last two pieces may be written as four bytes.
-/
namespace CodeReview.Http

inductive Host where
  | name (cs : List Char)
  | bytes (number : Nat)
  | pieces (numbers : List Nat)
  deriving DecidableEq, Repr

namespace Host

/-- A number of base sixteen, eight or ten, told apart by how it starts. -/
def number? (cs : List Char) : Option Nat :=
  let read (base : Nat) (digits : List Char) : Option Nat :=
    (digits.mapM (Text.Numeral.digit? base)).map fun ds => ds.foldl (fun n d => base * n + d) 0
  match cs with
  | [] => none
  | '0' :: 'x' :: digits => read 16 digits
  | '0' :: 'X' :: digits => read 16 digits
  | '0' :: d :: digits => read 8 (d :: digits)
  | digits => read 10 digits

/-- The labels of a name; a point at its end makes no further label. -/
def labels (name : List Char) : List (List Char) :=
  let parts := Text.split '.' name
  if parts.getLast? = some [] then parts.dropLast else parts

/-- Whether the last label of a name is a number, or at least written in digits. -/
def endsInNumber (name : List Char) : Bool :=
  match (labels name).getLast? with
  | some l => (number? l).isSome || (l ≠ [] && l.all Char.isDigit)
  | none => false

def bytesOfNumbers? (numbers : List Nat) : Option Nat :=
  match numbers.reverse with
  | [] => none
  | last :: front =>
    if 4 < numbers.length ∨ Nat.pow 256 (5 - numbers.length) ≤ last ∨ front.any (255 < ·) then none
    else
      some ((front.reverse.zipIdx.map fun n => n.1 * Nat.pow 256 (3 - n.2)).foldl (· + ·) last)

def bytes? (name : List Char) : Option Nat :=
  ((labels name).mapM number?).bind bytesOfNumbers?

/-- One piece: up to four digits. -/
def piece? (cs : List Char) : Option Nat :=
  if cs = [] ∨ 4 < cs.length then none
  else (Text.Numeral.digits 16 0xffff 0 cs).toOption

def byte? (cs : List Char) : Option Nat :=
  match cs with
  | [] => none
  | ['0'] => some 0
  | '0' :: _ => none
  | cs => (Text.Numeral.digits 10 255 0 cs).toOption

/-- Two pieces written as four bytes. -/
def piecePair? (cs : List Char) : Option (List Nat) :=
  match (Text.split '.' cs).mapM byte? with
  | some [a, b, c, d] => some [256 * a + b, 256 * c + d]
  | _ => none

/-- Pieces with single colons between them, the last of which may be written as bytes. -/
def pieceList? (mayEndInBytes : Bool) : List (List Char) → Option (List Nat)
  | [] => some []
  | [last] =>
    if mayEndInBytes && last.contains '.' then piecePair? last else (piece? last).map ([·])
  | p :: rest => do
    let n ← piece? p
    return n :: (← pieceList? mayEndInBytes rest)

def colonParts (cs : List Char) : List (List Char) :=
  if cs = [] then [] else Text.split ':' cs

/-- What stands before and after the first two colons in a row. -/
def splitGap : List Char → Option (List Char × List Char)
  | ':' :: ':' :: cs => some ([], cs)
  | c :: cs => (splitGap cs).map fun p => (c :: p.1, p.2)
  | [] => none

def pieces? (cs : List Char) : Option (List Nat) :=
  match splitGap cs with
  | none => do
    let ps ← pieceList? true (Text.split ':' cs)
    if ps.length = 8 then some ps else none
  | some (front, back) => do
    let before ← pieceList? false (colonParts front)
    let after ← pieceList? true (colonParts back)
    let present := before.length + after.length
    if present < 8 then some (before ++ List.replicate (8 - present) 0 ++ after) else none

def ofText? (cs : List Char) : Option Host :=
  match cs with
  | '[' :: rest =>
    if rest.getLast? = some ']' then (pieces? rest.dropLast).map .pieces else none
  | _ => do
    let text ← Text.Utf8.decode? (Text.Percent.decode cs)
    let name ← Domain.ascii? text
    if endsInNumber name then (bytes? name).map .bytes else some (.name name)

/-- Characters that no host has in an address of any scheme. -/
def isRefused (c : Char) : Bool :=
  "\x00\t\n\r #/:<>?@[\\]^|".contains c

/-- The host of an address of another scheme: any text, but the same in square brackets. -/
def ofAnyText? (cs : List Char) : Option Host :=
  match cs with
  | '[' :: rest =>
    if rest.getLast? = some ']' then (pieces? rest.dropLast).map .pieces else none
  | _ => if cs.any isRefused then none else some (.name (escape isControl cs))

def bytesText (n : Nat) : List Char :=
  ['.'].intercalate ([n >>> 24, (n >>> 16) % 256, n / 256 % 256, n % 256].map
    Text.Numeral.decimal)

def leadingZeros (ns : List Nat) : Nat :=
  (ns.takeWhile (· = 0)).length

/-- Where the first longest row of zeros starts, and its length. -/
def longestZeros (ns : List Nat) : Nat × Nat :=
  (List.range ns.length).foldl (fun best i =>
    let n := leadingZeros (ns.drop i)
    if best.2 < n then (i, n) else best) (0, 0)

def colonText (ns : List Nat) : List Char :=
  [':'].intercalate (ns.map Text.Numeral.hexadecimal)

/-- Two or more zeros in a row are left out once, where most of them stand. -/
def piecesText (ns : List Nat) : List Char :=
  let (start, count) := longestZeros ns
  if count < 2 then colonText ns
  else colonText (ns.take start) ++ [':', ':'] ++ colonText (ns.drop (start + count))

def text : Host → List Char
  | .name cs => cs
  | .bytes n => bytesText n
  | .pieces ns => '[' :: (piecesText ns ++ [']'])

end Host

end CodeReview.Http
