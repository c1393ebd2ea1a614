import CodeReview.Account.Summary
import CodeReview.Contribution
set_option autoImplicit false

/-!
The report of a change that clients read. Sections that were not asked for are left out of its
text, as are empty lists of hashtags and counts of zero lines. Sections by name keep the order in
which their names came up.
-/
namespace CodeReview

structure VoteReport where
  account : AccountSummary
  value : Int16
  date : String
  deriving DecidableEq, Repr

structure LabelReport where
  approved : Option AccountSummary
  rejected : Option AccountSummary
  recommended : Option AccountSummary
  disliked : Option AccountSummary
  votes : Option (List VoteReport)
  deriving DecidableEq, Repr

structure MessageReport where
  id : String
  author : Option AccountSummary
  date : String
  message : String
  patchSet : Option UInt32
  deriving DecidableEq, Repr

structure CommitReport where
  subject : String
  message : String
  deriving DecidableEq, Repr

structure FileReport where
  inserted : Option UInt32
  deleted : Option UInt32
  deriving DecidableEq, Repr

structure RevisionReport where
  number : UInt32
  created : String
  uploader : AccountSummary
  commit : Option CommitReport
  files : Option (List (String × FileReport))
  deriving DecidableEq, Repr

structure ChangeReport where
  id : String
  project : String
  branch : String
  topic : Option String
  hashtags : List String
  key : String
  subject : String
  status : ChangeStatus
  created : String
  updated : String
  submittable : Option Bool
  insertions : Option UInt32
  deletions : Option UInt32
  number : ChangeNumber
  owner : AccountSummary
  metaId : String
  labels : Option (List (String × LabelReport))
  messages : Option (List MessageReport)
  currentRevision : Option String
  revisions : Option (List (String × RevisionReport))
  contributions : Option (List Contribution)
  deriving Repr

def sectionJson {α : Type} (f : α → Json) (entries : List (String × α)) : Json :=
  .object (entries.map fun e => (e.1, f e.2))

def listJson {α : Type} (f : α → Json) (items : List α) : Json :=
  .array (items.map f)

namespace VoteReport

/-- The fields of the account stand beside those of the vote. -/
def toJson (v : VoteReport) : Json :=
  .object (v.account.fields ++ [("value", .ofInt16 v.value), ("date", .text v.date)])

/-- The fields of the account are found among all others, which must be whole too. -/
def ofJson? (around : Nat) (j : Json) : Option VoteReport :=
  match j with
  | .object _ => do
    let _ ← Json.whole? around j
    let r ← j.record? (AccountSummary.names ++ ["value", "date"])
    let account ← AccountSummary.ofRecord? r
    let value ← r.required "value" Json.int16?
    let date ← r.required "date" Json.text?
    return ⟨account, value, date⟩
  | _ => none

end VoteReport

namespace LabelReport

def toJson (l : LabelReport) : Json :=
  .object (Json.optionalField "approved" AccountSummary.toJson l.approved
    ++ Json.optionalField "rejected" AccountSummary.toJson l.rejected
    ++ Json.optionalField "recommended" AccountSummary.toJson l.recommended
    ++ Json.optionalField "disliked" AccountSummary.toJson l.disliked
    ++ Json.optionalField "all" (listJson VoteReport.toJson) l.votes)

def ofJson? (around : Nat) (j : Json) : Option LabelReport := do
  let r ← j.record? ["approved", "rejected", "recommended", "disliked", "all"]
  let approved ← r.withDefault "approved" (Json.option? AccountSummary.ofJson?) none
  let rejected ← r.withDefault "rejected" (Json.option? AccountSummary.ofJson?) none
  let recommended ← r.withDefault "recommended" (Json.option? AccountSummary.ofJson?) none
  let disliked ← r.withDefault "disliked" (Json.option? AccountSummary.ofJson?) none
  let votes ← r.withDefault "all" (Json.option? (Json.list? (VoteReport.ofJson? (around + 2)))) none
  return ⟨approved, rejected, recommended, disliked, votes⟩

end LabelReport

namespace MessageReport

def toJson (m : MessageReport) : Json :=
  .object (("id", .text m.id) :: (Json.optionalField "author" AccountSummary.toJson m.author
    ++ [("date", .text m.date), ("message", .text m.message)]
    ++ Json.optionalField "_revision_number" .ofUInt32 m.patchSet))

def ofJson? (j : Json) : Option MessageReport := do
  let r ← j.record? ["id", "author", "date", "message", "_revision_number"]
  let id ← r.required "id" Json.text?
  let author ← r.withDefault "author" (Json.option? AccountSummary.ofJson?) none
  let date ← r.required "date" Json.text?
  let message ← r.required "message" Json.text?
  let patchSet ← r.withDefault "_revision_number" (Json.option? Json.uint32?) none
  return ⟨id, author, date, message, patchSet⟩

end MessageReport

namespace CommitReport

def toJson (c : CommitReport) : Json :=
  .object [("subject", .text c.subject), ("message", .text c.message)]

def ofJson? (j : Json) : Option CommitReport := do
  let r ← j.record? ["subject", "message"]
  let subject ← r.required "subject" Json.text?
  let message ← r.required "message" Json.text?
  return ⟨subject, message⟩

end CommitReport

namespace FileReport

def toJson (f : FileReport) : Json :=
  .object (Json.optionalField "lines_inserted" .ofUInt32 f.inserted
    ++ Json.optionalField "lines_deleted" .ofUInt32 f.deleted)

def ofJson? (j : Json) : Option FileReport := do
  let r ← j.record? ["lines_inserted", "lines_deleted"]
  let inserted ← r.withDefault "lines_inserted" (Json.option? Json.uint32?) none
  let deleted ← r.withDefault "lines_deleted" (Json.option? Json.uint32?) none
  return ⟨inserted, deleted⟩

end FileReport

namespace RevisionReport

def toJson (v : RevisionReport) : Json :=
  .object ([("_number", .ofUInt32 v.number), ("created", .text v.created),
      ("uploader", v.uploader.toJson)]
    ++ Json.optionalField "commit" CommitReport.toJson v.commit
    ++ Json.optionalField "files" (sectionJson FileReport.toJson) v.files)

def ofJson? (j : Json) : Option RevisionReport := do
  let r ← j.record? ["_number", "created", "uploader", "commit", "files"]
  let number ← r.required "_number" Json.uint32?
  let created ← r.required "created" Json.text?
  let uploader ← r.required "uploader" AccountSummary.ofJson?
  let commit ← r.withDefault "commit" (Json.option? CommitReport.ofJson?) none
  let files ← r.withDefault "files" (Json.option? (Json.entries? FileReport.ofJson?)) none
  return ⟨number, created, uploader, commit, files⟩

end RevisionReport

namespace ChangeReport

def hashtagsField (tags : List String) : List (String × Json) :=
  if tags.isEmpty then [] else [("hashtags", listJson .text tags)]

def toJson (c : ChangeReport) : Json :=
  .object ([("id", .text c.id), ("project", .text c.project), ("branch", .text c.branch)]
    ++ Json.optionalField "topic" .text c.topic
    ++ hashtagsField c.hashtags
    ++ [("change_id", .text c.key), ("subject", .text c.subject), ("status", c.status.toJson),
      ("created", .text c.created), ("updated", .text c.updated)]
    ++ Json.optionalField "submittable" .bool c.submittable
    ++ Json.optionalField "insertions" .ofUInt32 c.insertions
    ++ Json.optionalField "deletions" .ofUInt32 c.deletions
    ++ [("_number", c.number.toJson), ("owner", c.owner.toJson), ("meta_rev_id", .text c.metaId)]
    ++ Json.optionalField "labels" (sectionJson LabelReport.toJson) c.labels
    ++ Json.optionalField "messages" (listJson MessageReport.toJson) c.messages
    ++ Json.optionalField "current_revision" .text c.currentRevision
    ++ Json.optionalField "revisions" (sectionJson RevisionReport.toJson) c.revisions
    ++ Json.optionalField "plugins" (listJson Contribution.toJson) c.contributions)

def ofJson? (j : Json) : Option ChangeReport := do
  let r ← j.record? ["id", "project", "branch", "topic", "hashtags", "change_id", "subject",
    "status", "created", "updated", "submittable", "insertions", "deletions", "_number", "owner",
    "meta_rev_id", "labels", "messages", "current_revision", "revisions", "plugins"]
  let id ← r.required "id" Json.text?
  let project ← r.required "project" Json.text?
  let branch ← r.required "branch" Json.text?
  let topic ← r.withDefault "topic" (Json.option? Json.text?) none
  let hashtags ← r.withDefault "hashtags" (Json.list? Json.text?) []
  let key ← r.required "change_id" Json.text?
  let subject ← r.required "subject" Json.text?
  let status ← r.required "status" ChangeStatus.ofJson?
  let created ← r.required "created" Json.text?
  let updated ← r.required "updated" Json.text?
  let submittable ← r.withDefault "submittable" (Json.option? Json.bool?) none
  let insertions ← r.withDefault "insertions" (Json.option? Json.uint32?) none
  let deletions ← r.withDefault "deletions" (Json.option? Json.uint32?) none
  let number ← r.required "_number" ChangeNumber.ofJson?
  let owner ← r.required "owner" AccountSummary.ofJson?
  let metaId ← r.required "meta_rev_id" Json.text?
  let labels ← r.withDefault "labels"
    (Json.option? (Json.entries? (LabelReport.ofJson? 2))) none
  let messages ← r.withDefault "messages" (Json.option? (Json.list? MessageReport.ofJson?)) none
  let currentRevision ← r.withDefault "current_revision" (Json.option? Json.text?) none
  let revisions ← r.withDefault "revisions"
    (Json.option? (Json.entries? RevisionReport.ofJson?)) none
  let contributions ← r.withDefault "plugins"
    (Json.option? (Json.list? (Contribution.ofJson? 2))) none
  return ⟨id, project, branch, topic, hashtags, key, subject, status, created, updated,
    submittable, insertions, deletions, number, owner, metaId, labels, messages,
    currentRevision, revisions, contributions⟩

end ChangeReport

end CodeReview
