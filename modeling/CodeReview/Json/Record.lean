import CodeReview.Json.Reader
set_option autoImplicit false

/-!
Reading JSON values as values of a type. A record is read from an object, where unknown names are
ignored and a known name may stand only once, or from the list of its fields in order, where
fields at the end may be left out when they have a default. Numbers are read within the range of
their type and never from a text.
-/
namespace CodeReview.Json

/-- The cells of a record by name, and whether they were given by position. -/
structure Record where
  cells : List (String × Option Json)
  positional : Bool

/-- The only value of a name, `none` when the name is repeated. -/
def onlyField (name : String) (fields : List (String × Json)) : Option (Option Json) :=
  match fields.filter fun f => f.1 = name with
  | [] => some none
  | [f] => some (some f.2)
  | _ => none

def zipCells : List String → List Json → List (String × Option Json)
  | [], _ => []
  | n :: ns, [] => (n, none) :: zipCells ns []
  | n :: ns, x :: xs => (n, some x) :: zipCells ns xs

def record? (names : List String) : Json → Option Record
  | .object fields =>
    (names.mapM fun n => (onlyField n fields).map (n, ·)).map (⟨·, false⟩)
  | .array items => if items.length ≤ names.length then some ⟨zipCells names items, true⟩ else none
  | _ => none

namespace Record

def cell (r : Record) (name : String) : Option Json :=
  ((r.cells.find? fun c => c.1 = name).map Prod.snd).join

def required {α : Type} (r : Record) (name : String) (read : Json → Option α) : Option α :=
  (r.cell name).bind read

def withDefault {α : Type} (r : Record) (name : String) (read : Json → Option α) (default : α) :
    Option α :=
  match r.cell name with
  | none => some default
  | some j => read j

end Record

/-- An optional value, absent when it is `null`. -/
def option? {α : Type} (read : Json → Option α) : Json → Option (Option α)
  | .null => some none
  | j => (read j).map some

/-- An optional field without a default of its own: it may be left out of an object, but not out
of a list of fields. -/
def Record.nullable {α : Type} (r : Record) (name : String) (read : Json → Option α) :
    Option (Option α) :=
  match r.cell name with
  | none => if r.positional then none else some none
  | some j => option? read j

def text? : Json → Option String
  | .text s => some s
  | _ => none

def bool? : Json → Option Bool
  | .bool b => some b
  | _ => none

def nat? : Json → Option Nat
  | .int (.ofNat n) => some n
  | _ => none

def uint32? : Json → Option UInt32
  | .int (.ofNat n) => if n < UInt32.size then some (UInt32.ofNat n) else none
  | _ => none

def int16? : Json → Option Int16
  | .int i =>
    if Int16.minValue.toInt ≤ i ∧ i ≤ Int16.maxValue.toInt then some (Int16.ofInt i) else none
  | _ => none

def int64? : Json → Option Int64
  | .int i =>
    if Int64.minValue.toInt ≤ i ∧ i ≤ Int64.maxValue.toInt then some (Int64.ofInt i) else none
  | _ => none

def list? {α : Type} (read : Json → Option α) : Json → Option (List α)
  | .array items => items.mapM read
  | _ => none

/-- Sets the value of a name, at the place of its first occurrence or at the end. -/
def setEntry {α : Type} (name : String) (value : α) : List (String × α) → List (String × α)
  | [] => [(name, value)]
  | (k, v) :: rest => if k = name then (name, value) :: rest else (k, v) :: setEntry name value rest

/-- The entries of an object by name, in the order in which the names first occur; a repeated
name keeps its last value. -/
def entries? {α : Type} (read : Json → Option α) : Json → Option (List (String × α))
  | .object fields =>
    (fields.mapM fun f => (read f.2).map (f.1, ·)).map fun es =>
      es.foldl (fun acc e => setEntry e.1 e.2 acc) []
  | _ => none

/-- One of several names, written as a text or as the only name of an object that holds `null`. -/
def variant? {α : Type} (names : List (String × α)) : Json → Option α
  | .text s => (names.find? fun n => n.1 = s).map Prod.snd
  | .object [(s, .null)] => (names.find? fun n => n.1 = s).map Prod.snd
  | _ => none

end CodeReview.Json
