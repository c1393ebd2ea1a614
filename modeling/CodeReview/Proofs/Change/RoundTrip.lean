import CodeReview.Proofs.Identifier
import CodeReview.Snapshot
set_option autoImplicit false

/-!
The state of a change is read back from its text.
-/
namespace CodeReview

section
open Json Record

@[simp] theorem ChangeStatus.ofJson?_toJson (s : ChangeStatus) : ofJson? s.toJson = some s := by
  cases s <;> decide

theorem FileStat.ofJson?_toJson (f : FileStat) : ofJson? f.toJson = some f := by
  refine bind_record rfl (by decide) fun r cells => ?_
  simp only [List.forall_mem_cons] at cells
  obtain ⟨path, insertions, deletions, -⟩ := cells
  rw [required_of_cell path (text?_text _), withDefault_of_cell 0 insertions (uint32?_ofUInt32 _),
    withDefault_of_cell 0 deletions (uint32?_ofUInt32 _)]
  rfl

theorem PatchSet.ofJson?_toJson (p : PatchSet) : ofJson? p.toJson = some p := by
  refine bind_record rfl (by decide) fun r cells => ?_
  simp only [List.forall_mem_cons] at cells
  obtain ⟨number, revision, uploader, created, commitMessage, files, -⟩ := cells
  rw [required_of_cell number (uint32?_ofUInt32 _),
    required_of_cell revision (ObjectId.ofJson?_toJson _),
    required_of_cell uploader (AccountId.ofJson?_toJson _),
    required_of_cell created (int64?_ofInt64 _), required_of_cell commitMessage (text?_text _),
    withDefault_of_cell [] files (list?_map _ FileStat.ofJson?_toJson)]
  rfl

theorem Approval.ofJson?_toJson (a : Approval) : ofJson? a.toJson = some a := by
  refine bind_record rfl (by decide) fun r cells => ?_
  simp only [List.forall_mem_cons] at cells
  obtain ⟨label, account, value, patchSet, granted, -⟩ := cells
  rw [required_of_cell label (text?_text _), required_of_cell account (AccountId.ofJson?_toJson _),
    required_of_cell value (int16?_ofInt16 _), required_of_cell patchSet (uint32?_ofUInt32 _),
    required_of_cell granted (int64?_ofInt64 _)]
  rfl

theorem ChangeMessage.ofJson?_toJson (m : ChangeMessage) : ofJson? m.toJson = some m := by
  have notNull : ∀ a : AccountId, a.toJson ≠ .null := by simp [AccountId.toJson, ofUInt32]
  refine bind_record rfl (by decide) fun r cells => ?_
  simp only [List.forall_mem_cons] at cells
  obtain ⟨id, author, date, message, patchSet, -⟩ := cells
  rw [required_of_cell id (text?_text _),
    withDefault_of_cell none author (option?_ofOption _ AccountId.ofJson?_toJson notNull),
    required_of_cell date (int64?_ofInt64 _), required_of_cell message (text?_text _),
    withDefault_of_cell none patchSet
      (option?_ofOption _ uint32?_ofUInt32 (by simp [ofUInt32]))]
  rfl

theorem Change.ofJson?_toJson (c : Change) : ofJson? c.toJson = some c := by
  refine bind_record rfl (by decide) fun r cells => ?_
  simp only [List.forall_mem_cons] at cells
  obtain ⟨id, project, branch, key, subject, status, owner, topic, hashtags, created, updated,
    patchSets, approvals, messages, -⟩ := cells
  rw [required_of_cell id (ChangeNumber.ofJson?_toJson _), required_of_cell project (text?_text _),
    required_of_cell branch (text?_text _), required_of_cell key (text?_text _),
    required_of_cell subject (text?_text _),
    withDefault_of_cell .new status (ChangeStatus.ofJson?_toJson _),
    required_of_cell owner (AccountId.ofJson?_toJson _),
    withDefault_of_cell none topic (option?_ofText _),
    withDefault_of_cell [] hashtags (list?_map _ text?_text),
    required_of_cell created (int64?_ofInt64 _), required_of_cell updated (int64?_ofInt64 _),
    withDefault_of_cell [] patchSets (list?_map _ PatchSet.ofJson?_toJson),
    withDefault_of_cell [] approvals (list?_map _ Approval.ofJson?_toJson),
    withDefault_of_cell [] messages (list?_map _ ChangeMessage.ofJson?_toJson)]
  rfl

theorem FileStat.plain_toJson (f : FileStat) : f.toJson.plain = true := by
  simp [toJson, plain, plainFields]

theorem PatchSet.plain_toJson (p : PatchSet) : p.toJson.plain = true := by
  simp [toJson, plain, plainFields, ObjectId.toJson, AccountId.toJson,
    plainItems_map _ FileStat.plain_toJson]

theorem Approval.plain_toJson (a : Approval) : a.toJson.plain = true := by
  simp [toJson, plain, plainFields, AccountId.toJson]

theorem ChangeMessage.plain_toJson (m : ChangeMessage) : m.toJson.plain = true := by
  have author : (ofOption AccountId.toJson m.author).plain = true :=
    plain_ofOption m.author fun a => plain_ofUInt32 a.number
  have patchSet := plain_ofOption m.patchSet plain_ofUInt32
  simp [toJson, plain, plainFields, author, patchSet]

theorem Change.plain_toJson (c : Change) : c.toJson.plain = true := by
  have hashtags : plainItems (c.hashtags.map .text) = true := plainItems_map _ fun _ => rfl
  simp [toJson, plain, plainFields, ChangeNumber.toJson, ChangeStatus.toJson, AccountId.toJson,
    plain_ofText, hashtags, plainItems_map _ PatchSet.plain_toJson,
    plainItems_map _ Approval.plain_toJson, plainItems_map _ ChangeMessage.plain_toJson]

theorem Change.read_stateText (c : Change) :
    (Json.parse (Snapshot.stateText c)).bind Change.ofJson? = some c := by
  rw [Snapshot.stateText, parse_compact c.plain_toJson, Option.bind_some, c.ofJson?_toJson]

end

end CodeReview
