set_option autoImplicit false

/-!
JSON values. An object is the list of its fields in the order they were written, with repeated
names kept, because readers of records refuse a repeated name and readers of free-form values
keep the last one. A number without fraction and exponent is an integer when it fits in 64 bits;
every other number is a double, kept by its bits. Text that follows the grammar but has no value,
such as a number beyond every double or half of a surrogate pair, is `unreadable`: it may stand
where a reader ignores it.
-/
namespace CodeReview

inductive Json where
  | null
  | bool (b : Bool)
  | int (i : Int)
  | float (bits : UInt64)
  | text (s : String)
  | array (items : List Json)
  | object (fields : List (String × Json))
  | unreadable
  deriving Repr, BEq, Inhabited

namespace Json

mutual

/-- How deep lists and objects are nested; a plain value has depth zero. -/
def depth : Json → Nat
  | .array items => depthItems items + 1
  | .object fields => depthFields fields + 1
  | _ => 0

def depthItems : List Json → Nat
  | [] => 0
  | x :: xs => max (depth x) (depthItems xs)

def depthFields : List (String × Json) → Nat
  | [] => 0
  | (_, x) :: xs => max (depth x) (depthFields xs)

end

mutual

def readable : Json → Bool
  | .array items => readableItems items
  | .object fields => readableFields fields
  | .unreadable => false
  | _ => true

def readableItems : List Json → Bool
  | [] => true
  | x :: xs => readable x && readableItems xs

def readableFields : List (String × Json) → Bool
  | [] => true
  | (_, x) :: xs => readable x && readableFields xs

end

/-- Sets a field of an object whose fields are sorted by name. -/
def setSorted (name : String) (value : Json) : List (String × Json) → List (String × Json)
  | [] => [(name, value)]
  | (k, v) :: rest =>
    if k = name then (name, value) :: rest
    else if name < k then (name, value) :: (k, v) :: rest
    else (k, v) :: setSorted name value rest

/-- The fields of an object sorted by name, the last of each name kept. -/
def sortFields (fields : List (String × Json)) : List (String × Json) :=
  fields.foldl (fun sorted f => setSorted f.1 f.2 sorted) []

mutual

def sorted : Json → Json
  | .array items => .array (sortedItems items)
  | .object fields => .object (sortFields (sortedFields fields))
  | j => j

def sortedItems : List Json → List Json
  | [] => []
  | x :: xs => sorted x :: sortedItems xs

def sortedFields : List (String × Json) → List (String × Json)
  | [] => []
  | (k, x) :: xs => (k, sorted x) :: sortedFields xs

end

def field? (name : String) : Json → Option Json
  | .object fields => (fields.reverse.find? fun f => f.1 = name).map Prod.snd
  | _ => none

/-- An optional value, with `null` for its absence. -/
def ofOption {α : Type} (f : α → Json) : Option α → Json
  | none => .null
  | some a => f a

/-- A field that is written only when it has a value. -/
def optionalField {α : Type} (name : String) (f : α → Json) : Option α → List (String × Json)
  | none => []
  | some a => [(name, f a)]

def ofNat (n : Nat) : Json :=
  .int n

def ofUInt32 (n : UInt32) : Json :=
  .int n.toNat

def ofInt16 (n : Int16) : Json :=
  .int n.toInt

def ofInt64 (n : Int64) : Json :=
  .int n.toInt

end Json

end CodeReview
