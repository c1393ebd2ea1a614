import CodeReview.Proofs.Change.Shown
import CodeReview.Proofs.Identifier
import CodeReview.Proofs.Json.Sorted
import CodeReview.Site
set_option autoImplicit false

/-!
Reports as text. All that a report writes by itself is text, truth values and numbers that fit, so
its text can be read again as soon as the same holds of what plugins contribute. It does of the
size of a change, which is all that a site of given settings asks plugins for.
-/
namespace CodeReview
open Act

section
open Json

theorem AccountSummary.plain_fields (s : AccountSummary) : plainFields s.fields = true := by
  have name : plainFields (optionalField "name" .text s.name) = true :=
    plainFields_optional fun _ => rfl
  have email : plainFields (optionalField "email" .text s.email) = true :=
    plainFields_optional fun _ => rfl
  have username : plainFields (optionalField "username" .text s.username) = true :=
    plainFields_optional fun _ => rfl
  have inactive : plainFields (optionalField "inactive" .bool s.inactive) = true :=
    plainFields_optional fun _ => rfl
  simp [fields, plainFields, name, email, username, inactive]

theorem AccountSummary.plain_toJson (s : AccountSummary) : s.toJson.plain = true :=
  s.plain_fields

theorem plain_listJson {α : Type} {f : α → Json} (h : ∀ a, (f a).plain = true) (items : List α) :
    (listJson f items).plain = true :=
  plainItems_map items h

theorem plain_sectionJson {α : Type} {f : α → Json} (h : ∀ a, (f a).plain = true)
    (entries : List (String × α)) : (sectionJson f entries).plain = true := by
  show plainFields _ = true
  rw [plainFields_iff]
  intro e there
  obtain ⟨entry, -, rfl⟩ := List.mem_map.1 there
  exact h entry.2

theorem VoteReport.plain_toJson (v : VoteReport) : v.toJson.plain = true := by
  show plainFields (v.account.fields ++ _) = true
  simp [v.account.plain_fields, plainFields, plain]

theorem LabelReport.plain_toJson (l : LabelReport) : l.toJson.plain = true := by
  have account (name : String) (a : Option AccountSummary) :
      plainFields (optionalField name AccountSummary.toJson a) = true :=
    plainFields_optional AccountSummary.plain_toJson
  have votes : plainFields (optionalField "all" (listJson VoteReport.toJson) l.votes) = true :=
    plainFields_optional (plain_listJson VoteReport.plain_toJson)
  show plainFields (_ ++ _) = true
  simp [account, votes]

theorem MessageReport.plain_toJson (m : MessageReport) : m.toJson.plain = true := by
  have author : plainFields (optionalField "author" AccountSummary.toJson m.author) = true :=
    plainFields_optional AccountSummary.plain_toJson
  have patchSet : plainFields (optionalField "_revision_number" ofUInt32 m.patchSet) = true :=
    plainFields_optional plain_ofUInt32
  simp [toJson, plainFields, plain, author, patchSet]

theorem CommitReport.plain_toJson (c : CommitReport) : c.toJson.plain = true := rfl

theorem FileReport.plain_toJson (f : FileReport) : f.toJson.plain = true := by
  have lines (name : String) (n : Option UInt32) :
      plainFields (optionalField name ofUInt32 n) = true := plainFields_optional plain_ofUInt32
  show plainFields (_ ++ _) = true
  simp [lines]

theorem RevisionReport.plain_toJson (v : RevisionReport) : v.toJson.plain = true := by
  have commit : plainFields (optionalField "commit" CommitReport.toJson v.commit) = true :=
    plainFields_optional CommitReport.plain_toJson
  have files : plainFields (optionalField "files" (sectionJson FileReport.toJson) v.files) =
      true := plainFields_optional (plain_sectionJson FileReport.plain_toJson)
  show plainFields (_ ++ _) = true
  simp [plainFields, plain, v.uploader.plain_toJson, commit, files]

/-- What a plugin contributes is plain. -/
def Contribution.Plain (c : Contribution) : Prop :=
  plainFields c.attributes = true

theorem Contribution.Plain.toJson {c : Contribution} (h : c.Plain) : c.toJson.plain = true := by
  have message : plainFields (optionalField "message" .text c.message) = true :=
    plainFields_optional fun _ => rfl
  have attributes : plainFields c.attributes = true := h
  simp [Contribution.toJson, plainFields, plain, message, attributes]

theorem ChangeReport.plain_toJson {c : ChangeReport}
    (h : ∀ cs, c.contributions = some cs → ∀ k ∈ cs, k.Plain) : c.toJson.plain = true := by
  have text (name : String) (t : Option String) :
      plainFields (optionalField name .text t) = true := plainFields_optional fun _ => rfl
  have lines (name : String) (n : Option UInt32) :
      plainFields (optionalField name ofUInt32 n) = true := plainFields_optional plain_ofUInt32
  have submittable : plainFields (optionalField "submittable" .bool c.submittable) = true :=
    plainFields_optional fun _ => rfl
  have hashtags : plainFields (hashtagsField c.hashtags) = true := by
    unfold hashtagsField
    split
    · rfl
    · simp [plainFields, plain_listJson (f := Json.text) fun _ => rfl]
  have labels : plainFields (optionalField "labels" (sectionJson LabelReport.toJson) c.labels) =
      true := plainFields_optional (plain_sectionJson LabelReport.plain_toJson)
  have messages : plainFields (optionalField "messages" (listJson MessageReport.toJson)
      c.messages) = true := plainFields_optional (plain_listJson MessageReport.plain_toJson)
  have revisions : plainFields (optionalField "revisions" (sectionJson RevisionReport.toJson)
      c.revisions) = true := plainFields_optional (plain_sectionJson RevisionReport.plain_toJson)
  have contributions : plainFields (optionalField "plugins" (listJson Contribution.toJson)
      c.contributions) = true := by
    cases given : c.contributions with
    | none => rfl
    | some cs =>
      have all : ∀ j ∈ cs.map Contribution.toJson, j.plain = true := by
        intro j there
        obtain ⟨k, inside, rfl⟩ := List.mem_map.1 there
        exact (h cs given k inside).toJson
      simp [optionalField, plainFields, listJson, plain, plainItems_iff.2 all]
  show plainFields (_ ++ _) = true
  simp [plainFields, plain, ChangeStatus.toJson, c.owner.plain_toJson, text, lines, submittable,
    hashtags, labels, messages, revisions, contributions]

end

namespace Contribution
variable {n : ChangeNumber} {c : Contribution} {all : List (ChangeNumber × List Contribution)}

theorem mem_add {e : ChangeNumber × List Contribution} (h : e ∈ add n c all) {k : Contribution}
    (hk : k ∈ e.2) : k = c ∨ ∃ e ∈ all, k ∈ e.2 := by
  induction all with
  | nil =>
    obtain rfl := List.mem_singleton.1 h
    exact .inl (List.mem_singleton.1 hk)
  | cons f rest ih =>
    obtain ⟨m, cs⟩ := f
    rw [add] at h
    split at h
    · rcases List.mem_cons.1 h with rfl | h
      · rcases List.mem_append.1 hk with hk | hk
        · exact .inr ⟨(m, cs), List.mem_cons_self, hk⟩
        · exact .inl (List.mem_singleton.1 hk)
      · exact .inr ⟨e, List.mem_cons_of_mem _ h, hk⟩
    · rcases List.mem_cons.1 h with rfl | h
      · exact .inr ⟨(m, cs), List.mem_cons_self, hk⟩
      · refine (ih h).imp_right ?_
        rintro ⟨f, there, hk⟩
        exact ⟨f, List.mem_cons_of_mem _ there, hk⟩

/-- All that is collected comes from some factory. -/
theorem mem_collect {factories : List Factory} {batch : List Change}
    {e : ChangeNumber × List Contribution} (h : e ∈ collect factories batch) {k : Contribution}
    (hk : k ∈ e.2) : ∃ f ∈ factories, ∃ m, (m, k) ∈ ofFactory f batch := by
  have fold (given : List (ChangeNumber × Contribution))
      (all : List (ChangeNumber × List Contribution))
      (h : e ∈ given.foldl (fun all g => add g.1 g.2 all) all) :
      (∃ e ∈ all, k ∈ e.2) ∨ ∃ m, (m, k) ∈ given := by
    induction given generalizing all with
    | nil => exact .inl ⟨e, h, hk⟩
    | cons g given ih =>
      rcases ih _ h with ⟨f, there, hk⟩ | ⟨m, there⟩
      · rcases mem_add there hk with rfl | found
        · exact .inr ⟨g.1, List.mem_cons_self⟩
        · exact .inl found
      · exact .inr ⟨m, List.mem_cons_of_mem g there⟩
  rcases fold _ [] h with ⟨f, none, -⟩ | ⟨m, there⟩
  · cases none
  · obtain ⟨f, given, there⟩ := List.mem_flatMap.1 there
    exact ⟨f, given, m, there⟩

theorem mem_forChange (h : c ∈ forChange n all) : ∃ e ∈ all, c ∈ e.2 := by
  unfold forChange at h
  cases found : all.find? fun e => e.1 = n with
  | none =>
    rw [found] at h
    cases h
  | some e =>
    rw [found] at h
    exact ⟨e, List.mem_of_find?_eq_some found, h⟩

end Contribution

/-- The size of a change is plain, and so is whatever a site of given settings collects. -/
theorem Site.plain_contributions (settings : Settings) {n : ChangeNumber} {batch : List Change}
    {c : Contribution}
    (h : c ∈ Contribution.forChange n
      (Contribution.collect (ofSettings settings).factories batch)) : c.Plain := by
  obtain ⟨e, there, hk⟩ := Contribution.mem_forChange h
  obtain ⟨f, given, m, made⟩ := Contribution.mem_collect there hk
  obtain rfl : f = .changeSize := by
    unfold ofSettings at given
    dsimp only at given
    split at given
    · exact List.mem_singleton.1 given
    · cases given
  obtain ⟨entry, listed, same⟩ := List.mem_map.1 made
  obtain ⟨-, rfl⟩ := Prod.mk.inj same
  obtain ⟨change, -, sized⟩ := List.mem_filterMap.1 listed
  obtain ⟨p, -, rfl⟩ := Option.map_eq_some_iff.1 sized
  simp [Contribution.Plain, Json.plainFields, Json.plain]

/-- A report of a site is read back from its text. -/
theorem plain_of_run_reportChange {settings : Settings} {options : OptionSet} {n : ChangeNumber}
    {pin : Option ObjectId} {w v : World} {report : ChangeReport} (works : w.failing = [])
    (h : (reportChange (Site.ofSettings settings).labels (Site.ofSettings settings).factories
      options n pin).run w = (.ok report, v)) : report.toJson.plain = true := by
  obtain ⟨s, u, found, made⟩ := run_bind_eq_ok.1 h
  obtain rfl := ((ungrouped_getChange n pin).reads.mapError _).world_eq found
  rw [run_reportSnapshot (works ▸ List.not_mem_nil)] at made
  obtain rfl := Except.ok.inj (Prod.mk.inj made).1
  refine ChangeReport.plain_toJson fun cs given k inside => ?_
  rw [ChangeReport.of] at given
  dsimp only at given
  split at given
  · cases given
  · cases given
    exact Site.plain_contributions settings inside

end CodeReview
