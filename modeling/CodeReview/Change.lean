import CodeReview.Identifier
import CodeReview.ObjectId
set_option autoImplicit false

/-!
The state of a change as one snapshot records it: its patch sets with the files they touch, the
votes and the messages. The current patch set is the one with the greatest number, and the last
of them in the list if the number is repeated.
-/
namespace CodeReview

inductive ChangeStatus where
  | new
  | merged
  | abandoned
  deriving DecidableEq, Repr

def ChangeStatus.name : ChangeStatus → String
  | .new => "NEW"
  | .merged => "MERGED"
  | .abandoned => "ABANDONED"

structure FileStat where
  path : String
  insertions : UInt32
  deletions : UInt32
  deriving DecidableEq, Repr

structure PatchSet where
  number : UInt32
  revision : ObjectId
  uploader : AccountId
  created : Int64
  commitMessage : String
  files : List FileStat
  deriving DecidableEq, Repr

structure Approval where
  label : String
  account : AccountId
  value : Int16
  patchSet : UInt32
  granted : Int64
  deriving DecidableEq, Repr

structure ChangeMessage where
  id : String
  author : Option AccountId
  date : Int64
  message : String
  patchSet : Option UInt32
  deriving DecidableEq, Repr

structure Change where
  id : ChangeNumber
  project : String
  branch : String
  key : String
  subject : String
  status : ChangeStatus
  owner : AccountId
  topic : Option String
  hashtags : List String
  created : Int64
  updated : Int64
  patchSets : List PatchSet
  approvals : List Approval
  messages : List ChangeMessage
  deriving DecidableEq, Repr

/-- A sum that stops at the greatest 32-bit number. -/
def saturatingAdd (a b : UInt32) : UInt32 :=
  UInt32.ofNat (min (a.toNat + b.toNat) (UInt32.size - 1))

theorem toNat_saturatingAdd (a b : UInt32) :
    (saturatingAdd a b).toNat = min (a.toNat + b.toNat) (UInt32.size - 1) := by
  simp only [saturatingAdd, UInt32.toNat_ofNat', UInt32.size]
  omega

/-- The text before the first line feed, less a carriage return that stands right before it.
A text without a line feed is one line as it stands. -/
def firstLine (cs : List Char) : List Char :=
  let line := cs.takeWhile (· ≠ '\n')
  if '\n' ∈ cs ∧ line.getLast? = some '\r' then line.dropLast else line

namespace PatchSet

def subject (p : PatchSet) : String :=
  String.ofList (firstLine p.commitMessage.toList)

def insertions (p : PatchSet) : UInt32 :=
  p.files.foldl (fun sum f => saturatingAdd sum f.insertions) 0

def deletions (p : PatchSet) : UInt32 :=
  p.files.foldl (fun sum f => saturatingAdd sum f.deletions) 0

/-- The patch set with the greatest number, the last one if there are several. -/
def latest : List PatchSet → Option PatchSet
  | [] => none
  | p :: ps =>
    match latest ps with
    | none => some p
    | some q => if p.number ≤ q.number then some q else some p

end PatchSet

namespace Change

def currentPatchSet (c : Change) : Option PatchSet :=
  PatchSet.latest c.patchSets

def currentApprovals (c : Change) : List Approval :=
  c.approvals.filter fun a => some a.patchSet = c.currentPatchSet.map PatchSet.number

/-- Project, branch and key, by which a change is named in full. -/
def triplet (c : Change) : String :=
  c.project ++ "~" ++ c.branch ++ "~" ++ c.key

end Change

def ChangeStatus.toJson (s : ChangeStatus) : Json :=
  .text s.name

def ChangeStatus.ofJson? (j : Json) : Option ChangeStatus :=
  j.variant? [("NEW", .new), ("MERGED", .merged), ("ABANDONED", .abandoned)]

namespace FileStat

def toJson (f : FileStat) : Json :=
  .object [("path", .text f.path), ("insertions", .ofUInt32 f.insertions),
    ("deletions", .ofUInt32 f.deletions)]

def ofJson? (j : Json) : Option FileStat := do
  let r ← j.record? ["path", "insertions", "deletions"]
  let path ← r.required "path" Json.text?
  let insertions ← r.withDefault "insertions" Json.uint32? 0
  let deletions ← r.withDefault "deletions" Json.uint32? 0
  return ⟨path, insertions, deletions⟩

end FileStat

namespace PatchSet

def toJson (p : PatchSet) : Json :=
  .object [
    ("number", .ofUInt32 p.number),
    ("revision", p.revision.toJson),
    ("uploader", p.uploader.toJson),
    ("created", .ofInt64 p.created),
    ("commit_message", .text p.commitMessage),
    ("files", .array (p.files.map FileStat.toJson))]

def ofJson? (j : Json) : Option PatchSet := do
  let r ← j.record? ["number", "revision", "uploader", "created", "commit_message", "files"]
  let number ← r.required "number" Json.uint32?
  let revision ← r.required "revision" ObjectId.ofJson?
  let uploader ← r.required "uploader" AccountId.ofJson?
  let created ← r.required "created" Json.int64?
  let commitMessage ← r.required "commit_message" Json.text?
  let files ← r.withDefault "files" (Json.list? FileStat.ofJson?) []
  return ⟨number, revision, uploader, created, commitMessage, files⟩

end PatchSet

namespace Approval

def toJson (a : Approval) : Json :=
  .object [
    ("label", .text a.label),
    ("account", a.account.toJson),
    ("value", .ofInt16 a.value),
    ("patch_set", .ofUInt32 a.patchSet),
    ("granted", .ofInt64 a.granted)]

def ofJson? (j : Json) : Option Approval := do
  let r ← j.record? ["label", "account", "value", "patch_set", "granted"]
  let label ← r.required "label" Json.text?
  let account ← r.required "account" AccountId.ofJson?
  let value ← r.required "value" Json.int16?
  let patchSet ← r.required "patch_set" Json.uint32?
  let granted ← r.required "granted" Json.int64?
  return ⟨label, account, value, patchSet, granted⟩

end Approval

namespace ChangeMessage

def toJson (m : ChangeMessage) : Json :=
  .object [
    ("id", .text m.id),
    ("author", Json.ofOption AccountId.toJson m.author),
    ("date", .ofInt64 m.date),
    ("message", .text m.message),
    ("patch_set", Json.ofOption .ofUInt32 m.patchSet)]

def ofJson? (j : Json) : Option ChangeMessage := do
  let r ← j.record? ["id", "author", "date", "message", "patch_set"]
  let id ← r.required "id" Json.text?
  let author ← r.withDefault "author" (Json.option? AccountId.ofJson?) none
  let date ← r.required "date" Json.int64?
  let message ← r.required "message" Json.text?
  let patchSet ← r.withDefault "patch_set" (Json.option? Json.uint32?) none
  return ⟨id, author, date, message, patchSet⟩

end ChangeMessage

namespace Change

def toJson (c : Change) : Json :=
  .object [
    ("id", c.id.toJson),
    ("project", .text c.project),
    ("branch", .text c.branch),
    ("change_key", .text c.key),
    ("subject", .text c.subject),
    ("status", c.status.toJson),
    ("owner", c.owner.toJson),
    ("topic", Json.ofOption .text c.topic),
    ("hashtags", .array (c.hashtags.map .text)),
    ("created", .ofInt64 c.created),
    ("updated", .ofInt64 c.updated),
    ("patch_sets", .array (c.patchSets.map PatchSet.toJson)),
    ("approvals", .array (c.approvals.map Approval.toJson)),
    ("messages", .array (c.messages.map ChangeMessage.toJson))]

def ofJson? (j : Json) : Option Change := do
  let r ← j.record? ["id", "project", "branch", "change_key", "subject", "status", "owner",
    "topic", "hashtags", "created", "updated", "patch_sets", "approvals", "messages"]
  let id ← r.required "id" ChangeNumber.ofJson?
  let project ← r.required "project" Json.text?
  let branch ← r.required "branch" Json.text?
  let key ← r.required "change_key" Json.text?
  let subject ← r.required "subject" Json.text?
  let status ← r.withDefault "status" ChangeStatus.ofJson? .new
  let owner ← r.required "owner" AccountId.ofJson?
  let topic ← r.withDefault "topic" (Json.option? Json.text?) none
  let hashtags ← r.withDefault "hashtags" (Json.list? Json.text?) []
  let created ← r.required "created" Json.int64?
  let updated ← r.required "updated" Json.int64?
  let patchSets ← r.withDefault "patch_sets" (Json.list? PatchSet.ofJson?) []
  let approvals ← r.withDefault "approvals" (Json.list? Approval.ofJson?) []
  let messages ← r.withDefault "messages" (Json.list? ChangeMessage.ofJson?) []
  return ⟨id, project, branch, key, subject, status, owner, topic, hashtags, created, updated,
    patchSets, approvals, messages⟩

end Change

end CodeReview
