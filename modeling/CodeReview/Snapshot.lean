import CodeReview.Change
import CodeReview.Hash.Blake3
import CodeReview.Json.Printer
import CodeReview.Text.Utf8
set_option autoImplicit false

/-!
Snapshots of a change, each named by its content. The id of a snapshot is the start of the digest
of the id of the snapshot before it, if there is one, followed by the compact text of the state,
so an id fixes the whole history behind it.
-/
namespace CodeReview

structure Snapshot where
  metaId : ObjectId
  state : Change
  deriving DecidableEq, Repr

namespace Snapshot

def stateText (c : Change) : String :=
  c.toJson.compact

/-- The bytes that are hashed: a mark that says whether a parent follows, the parent, the text. -/
def content (parent : Option ObjectId) (c : Change) : List UInt8 :=
  (match parent with
    | none => [0]
    | some p => 1 :: p.bytes) ++ Text.Utf8.bytes (stateText c)

def idOf (parent : Option ObjectId) (c : Change) : ObjectId :=
  ⟨Hash.Blake3.digest 20 (content parent c), Hash.Blake3.length_digest (by decide) _⟩

def toJson (s : Snapshot) : Json :=
  .object [("meta_id", s.metaId.toJson), ("state", s.state.toJson)]

def ofJson? (j : Json) : Option Snapshot := do
  let r ← j.record? ["meta_id", "state"]
  let metaId ← r.required "meta_id" ObjectId.ofJson?
  let state ← r.required "state" Change.ofJson?
  return ⟨metaId, state⟩

end Snapshot

end CodeReview
