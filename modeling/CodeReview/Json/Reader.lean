import CodeReview.Json.Basic
import CodeReview.Json.Quoted
import CodeReview.Json.Number
set_option autoImplicit false

/-!
Reading JSON text. The reader follows the grammar to the letter: no comma before a closing
bracket, no leading zero, no raw control character inside a text, and nothing but blanks after
the value.
-/
namespace CodeReview.Json

def isSpace (c : Char) : Bool :=
  c = ' ' || c = '\n' || c = '\t' || c = '\r'

def skipSpace (cs : List Char) : List Char :=
  cs.dropWhile isSpace

/-- An object, or nothing readable when one of its names is not. -/
def ofFields (fields : List (Option String × Json)) : Json :=
  match fields.mapM fun f => f.1.map (·, f.2) with
  | some fs => .object fs
  | none => .unreadable

mutual

def value : Nat → List Char → Option (Json × List Char)
  | 0, _ => none
  | fuel + 1, cs =>
    match cs with
    | 'n' :: 'u' :: 'l' :: 'l' :: rest => some (.null, rest)
    | 't' :: 'r' :: 'u' :: 'e' :: rest => some (.bool true, rest)
    | 'f' :: 'a' :: 'l' :: 's' :: 'e' :: rest => some (.bool false, rest)
    | '"' :: rest =>
      match Quoted.decode rest with
      | some (some s, rest) => some (.text s, rest)
      | some (none, rest) => some (.unreadable, rest)
      | none => none
    | '[' :: rest =>
      match skipSpace rest with
      | ']' :: rest => some (.array [], rest)
      | rest => (items fuel rest).map fun p => (.array p.1, p.2)
    | '\x7b' :: rest =>
      match skipSpace rest with
      | '\x7d' :: rest => some (.object [], rest)
      | rest => (fields fuel rest).map fun p => (ofFields p.1, p.2)
    | cs => Number.read cs

def items : Nat → List Char → Option (List Json × List Char)
  | 0, _ => none
  | fuel + 1, cs =>
    match value fuel cs with
    | none => none
    | some (x, rest) =>
      match skipSpace rest with
      | ']' :: rest => some ([x], rest)
      | ',' :: rest => (items fuel (skipSpace rest)).map fun p => (x :: p.1, p.2)
      | _ => none

def fields : Nat → List Char → Option (List (Option String × Json) × List Char)
  | 0, _ => none
  | fuel + 1, cs =>
    match cs with
    | '"' :: rest =>
      match Quoted.decode rest with
      | none => none
      | some (name, rest) =>
        match skipSpace rest with
        | ':' :: rest =>
          match value fuel (skipSpace rest) with
          | none => none
          | some (x, rest) =>
            match skipSpace rest with
            | '\x7d' :: rest => some ([(name, x)], rest)
            | ',' :: rest => (fields fuel (skipSpace rest)).map fun p => ((name, x) :: p.1, p.2)
            | _ => none
        | _ => none
    | _ => none

end

def parseChars (cs : List Char) : Option Json :=
  match value (2 * cs.length + 2) (skipSpace cs) with
  | some (j, rest) => if skipSpace rest = [] then some j else none
  | none => none

def parse (s : String) : Option Json :=
  parseChars s.toList

/-- The nesting that free-form values may have. -/
def deepest : Nat := 127

/-- A value that every reader accepts: readable in all its parts and not nested too deep. The
objects and lists around it count. -/
def whole? (around : Nat) (j : Json) : Option Json :=
  if j.readable && around + j.depth ≤ deepest then some j else none

/-- Reads a whole text as a free-form value: names sorted, the last of each name kept. -/
def parseValue (s : String) : Option Json :=
  ((parse s).bind (whole? 0)).map sorted

end CodeReview.Json
