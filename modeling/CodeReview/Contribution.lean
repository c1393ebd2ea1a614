import CodeReview.Change
import CodeReview.Json.Record
set_option autoImplicit false

/-!
Attributes that plugins contribute to changes. Every factory is asked about a batch of changes,
in the order of registration. A factory that fails does not spoil the answer: each change of the
batch gets an entry that says so. The entries of a change keep their order.
-/
namespace CodeReview

structure Contribution where
  name : String
  message : Option String
  attributes : List (String × Json)
  deriving Repr

abbrev Attributes := List (String × Json)

/-- A source of contributions, which may fail or answer with any entries. -/
structure Factory where
  name : String
  create : List Change → Except String (List (ChangeNumber × Attributes))

namespace Contribution

def failure (name : String) : Contribution :=
  ⟨name, some ("Something went wrong in plugin: " ++ name), []⟩

/-- The attributes stand beside the name and the message in one object. -/
def toJson (c : Contribution) : Json :=
  .object (("name", .text c.name) :: (Json.optionalField "message" .text c.message
    ++ c.attributes))

/-- All fields but the name and the message are attributes, which are free-form. -/
def ofJson? (around : Nat) (j : Json) : Option Contribution :=
  match j with
  | .object fields => do
    let _ ← Json.whole? around j
    let r ← j.record? ["name", "message"]
    let name ← r.required "name" Json.text?
    let message ← r.withDefault "message" (Json.option? Json.text?) none
    let others := fields.filter fun f => f.1 ≠ "name" && f.1 ≠ "message"
    match Json.sorted (.object others) with
    | .object attributes => return ⟨name, message, attributes⟩
    | _ => none
  | _ => none

def add (n : ChangeNumber) (c : Contribution) :
    List (ChangeNumber × List Contribution) → List (ChangeNumber × List Contribution)
  | [] => [(n, [c])]
  | (m, cs) :: rest => if m = n then (m, cs ++ [c]) :: rest else (m, cs) :: add n c rest

def ofFactory (f : Factory) (batch : List Change) : List (ChangeNumber × Contribution) :=
  match f.create batch with
  | .ok entries => entries.map fun e => (e.1, ⟨f.name, none, e.2⟩)
  | .error _ => batch.map fun c => (c.id, failure f.name)

def collect (factories : List Factory) (batch : List Change) :
    List (ChangeNumber × List Contribution) :=
  (factories.flatMap fun f => ofFactory f batch).foldl (fun all e => add e.1 e.2 all) []

def forChange (n : ChangeNumber) (all : List (ChangeNumber × List Contribution)) :
    List Contribution :=
  ((all.find? fun e => e.1 = n).map Prod.snd).getD []

end Contribution

def sizeBucket (lines : UInt32) : String :=
  if lines ≤ 9 then "XS"
  else if lines ≤ 49 then "S"
  else if lines ≤ 249 then "M"
  else if lines ≤ 999 then "L"
  else "XL"

def PatchSet.lines (p : PatchSet) : UInt32 :=
  saturatingAdd p.insertions p.deletions

def Factory.changeSize : Factory :=
  ⟨"change-size", fun batch => .ok (batch.filterMap fun c =>
    c.currentPatchSet.map fun p =>
      (c.id, [("lines", Json.ofUInt32 p.lines), ("size", .text (sizeBucket p.lines))]))⟩

end CodeReview
