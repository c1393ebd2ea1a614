import CodeReview.Proofs.Change.Shown
set_option autoImplicit false

/-!
What output options do to a report. More options show more and take nothing away: each section,
each field of a section and each detail of an account that was shown is shown as it was. Only
`SKIP_DIFFSTAT` hides something, and options without an effect have none.
-/
namespace CodeReview
open Act Json

/-- The second way to show accounts shows each as the first does, or more of it than its id. -/
def Reveals (shown more : AccountId → AccountSummary) : Prop :=
  ∀ id, shown id = more id ∨ shown id = .idOnly (more id).id

theorem reveals_summary (s : Store) {details more : Bool} (h : details = true → more = true) :
    Reveals (s.summary details) (s.summary more) := by
  intro id
  rw [Store.summary, Store.summary]
  cases s.accounts.find? fun a => a.id = id with
  | none => exact .inl rfl
  | some a =>
    cases details with
    | true => exact .inl (by rw [h rfl])
    | false =>
      cases more with
      | true => exact .inr rfl
      | false => exact .inl rfl

theorem AccountSummary.extends_fields {s t : AccountSummary} (h : s = t ∨ s = .idOnly t.id) :
    Extends AccountSummary.names s.fields t.fields := by
  show Extends (["_account_id"] ++ (["name"] ++ ["email"] ++ ["username"] ++ ["inactive"])) _ _
  rcases h with rfl | rfl
  · exact (Extends.field _ (.equal _)).append ((((Extends.unchanged _ _ _).append
      (.unchanged _ _ _)).append (.unchanged _ _ _)).append (.unchanged _ _ _))
  · exact (Extends.field _ (.equal _)).append ((((Extends.absent _ _ t.name).append
      (.absent _ _ t.email)).append (.absent _ _ t.username)).append (.absent _ _ t.inactive))

theorem AccountSummary.contained {s t : AccountSummary} (h : s = t ∨ s = .idOnly t.id) :
    ContainedIn s.toJson t.toJson :=
  Extends.contained _ (by decide) (extends_fields h)

section
variable {α β γ δ : Type} {f : β → Json} {g : γ → Json}

theorem contained_listJson {u : α → β} {v : α → γ} (items : List α)
    (h : ∀ a ∈ items, ContainedIn (f (u a)) (g (v a))) :
    ContainedIn (listJson f (items.map u)) (listJson g (items.map v)) := by
  refine .array ?_
  rw [List.forall₂_map_left_iff, List.forall₂_map_right_iff, List.forall₂_map_left_iff,
    List.forall₂_map_right_iff, List.forall₂_same]
  exact h

/-- Sections whose names are not repeated are compared name by name. -/
theorem contained_sectionJson {entries : List (String × β)} {more : List (String × γ)}
    (nodup : (more.map Prod.fst).Nodup)
    (h : ∀ k b, (k, b) ∈ entries → ∃ c, (k, c) ∈ more ∧ ContainedIn (f b) (g c)) :
    ContainedIn (sectionJson f entries) (sectionJson g more) := by
  refine contained_object (by rwa [List.map_map]) fun e there => ?_
  obtain ⟨⟨k, b⟩, shown, rfl⟩ := List.mem_map.1 there
  obtain ⟨c, found, contained⟩ := h k b shown
  exact ⟨g c, List.mem_map.2 ⟨(k, c), found, rfl⟩, contained⟩

end

section
variable {shown more : AccountId → AccountSummary} (reveals : Reveals shown more)
include reveals

theorem VoteReport.contained (a : Approval) :
    ContainedIn (VoteReport.of shown a).toJson (VoteReport.of more a).toJson := by
  refine Extends.contained (AccountSummary.names ++ ["value", "date"]) (by decide) ?_
  exact (AccountSummary.extends_fields (reveals a.account)).append (.same _ rfl)

theorem LabelReport.contained (c : Change) (l : Label) {detailed detailed' : Bool}
    (h : detailed = true → detailed' = true) :
    ContainedIn (LabelReport.of shown detailed c l).toJson
      (LabelReport.of more detailed' c l).toJson := by
  have account : ∀ a : Approval, ContainedIn (shown a.account).toJson (more a.account).toJson :=
    fun a => AccountSummary.contained (reveals a.account)
  have votes := contained_listJson (votesOn c l) fun a _ => VoteReport.contained reveals a
  refine Extends.contained
    (["approved"] ++ ["rejected"] ++ ["recommended"] ++ ["disliked"] ++ ["all"]) (by decide) ?_
  exact ((((Extends.map _ _ account).append (.map _ _ account)).append (.map _ _ account)).append
    (.map _ _ account)).append (.demand _ h votes)

theorem MessageReport.contained (m : ChangeMessage) :
    ContainedIn (MessageReport.of shown m).toJson (MessageReport.of more m).toJson := by
  refine Extends.contained (["id"] ++ (["author"] ++ ["date", "message"] ++ ["_revision_number"]))
    (by decide) ?_
  have author := Extends.map "author" m.author fun id => AccountSummary.contained (reveals id)
  have dated := Extends.same
    [("date", .text (Calendar.timestamp m.date)), ("message", .text m.message)] rfl
  exact (Extends.field _ (.equal _)).append ((author.append dated).append (.unchanged _ _ _))

theorem RevisionReport.contained (p : PatchSet) (current : Bool) {A B : OptionSet}
    (commit : showsCommit A current = true → showsCommit B current = true)
    (files : showsFiles A current = true → showsFiles B current = true) :
    ContainedIn (RevisionReport.of shown A current p).toJson
      (RevisionReport.of more B current p).toJson := by
  refine Extends.contained (["_number", "created"] ++ ["uploader"] ++ ["commit"] ++ ["files"])
    (by decide) ?_
  have uploader := Extends.field "uploader" (AccountSummary.contained (reveals p.uploader))
  have numbered := Extends.same
    [("_number", .ofUInt32 p.number), ("created", .text (Calendar.timestamp p.created))] rfl
  exact ((numbered.append uploader).append (.demand _ commit (.equal _))).append
    (.demand _ files (.equal _))

theorem labelsOf_contained (c : Change) (labels : List Label) {A B : OptionSet}
    (detailed : A.contains .detailedLabels = true → B.contains .detailedLabels = true) :
    ContainedIn (sectionJson LabelReport.toJson (labelsOf shown A c labels))
      (sectionJson LabelReport.toJson (labelsOf more B c labels)) := by
  refine contained_sectionJson nodup_byName fun k r found => ?_
  obtain ⟨l, last, rfl⟩ := mem_byName.1 found
  exact ⟨_, mem_byName.2 ⟨l, last, rfl⟩, LabelReport.contained reveals c l detailed⟩

end

theorem mem_insertPatchSet {p q : PatchSet} {ps : List PatchSet} :
    q ∈ insertPatchSet p ps ↔ q = p ∨ q ∈ ps := by
  induction ps with
  | nil => simp [insertPatchSet]
  | cons r ps ih =>
    rw [insertPatchSet]
    split
    · simp
    · rw [List.mem_cons, ih, List.mem_cons]
      tauto

theorem mem_sortPatchSets {q : PatchSet} {ps : List PatchSet} : q ∈ sortPatchSets ps ↔ q ∈ ps := by
  induction ps with
  | nil => rfl
  | cons p ps ih =>
    rw [sortPatchSets, List.foldr_cons, mem_insertPatchSet, List.mem_cons, ← ih]
    rfl

theorem ascending_insertPatchSet {p : PatchSet} {ps : List PatchSet}
    (h : ps.Pairwise fun p q => p.number ≤ q.number) :
    (insertPatchSet p ps).Pairwise fun p q => p.number ≤ q.number := by
  induction ps with
  | nil => exact List.pairwise_singleton _ _
  | cons r ps ih =>
    obtain ⟨first, rest⟩ := List.pairwise_cons.1 h
    rw [insertPatchSet]
    split
    · next before =>
      refine List.pairwise_cons.2 ⟨fun q there => ?_, h⟩
      rcases List.mem_cons.1 there with rfl | there
      · exact before
      · exact UInt32.le_trans before (first q there)
    · next after =>
      have before : r.number ≤ p.number := (UInt32.le_total p.number r.number).resolve_left after
      refine List.pairwise_cons.2 ⟨fun q there => ?_, ih rest⟩
      rcases mem_insertPatchSet.1 there with rfl | there
      · exact before
      · exact first q there

theorem ascending_sortPatchSets (ps : List PatchSet) :
    (sortPatchSets ps).Pairwise fun p q => p.number ≤ q.number := by
  induction ps with
  | nil => exact .nil
  | cons p ps ih => exact ascending_insertPatchSet ih

/-- The current patch set has the greatest number. -/
theorem PatchSet.le_latest {p : PatchSet} {ps : List PatchSet} (h : p ∈ ps) :
    ∃ q, latest ps = some q ∧ p.number ≤ q.number := by
  induction ps with
  | nil => cases h
  | cons r ps ih =>
    rw [latest]
    rcases List.mem_cons.1 h with rfl | there
    · cases latest ps with
      | none => exact ⟨p, rfl, UInt32.le_refl _⟩
      | some q =>
        dsimp only
        split
        · next less => exact ⟨q, rfl, less⟩
        · exact ⟨p, rfl, UInt32.le_refl _⟩
    · obtain ⟨q, last, less⟩ := ih there
      rw [last]
      dsimp only
      split
      · exact ⟨q, rfl, less⟩
      · next greater =>
        have most : q.number ≤ r.number := (UInt32.le_total r.number q.number).resolve_left greater
        exact ⟨r, rfl, UInt32.le_trans less most⟩

/-- Nothing comes after the current patch sets. -/
theorem isCurrent_of_le {c : Change} {p q : PatchSet} (there : q ∈ c.patchSets)
    (less : p.number ≤ q.number) (current : isCurrent c p = true) : isCurrent c q = true := by
  obtain ⟨r, last, most⟩ := PatchSet.le_latest there
  rw [isCurrent, Change.currentPatchSet, last, Option.map_some, decide_eq_true_iff,
    Option.some_inj] at current ⊢
  exact UInt32.le_antisymm most (current ▸ less)

/-- Dropping those that come after all others does not change which comes first. -/
theorem find?_of_leading {α : Type} {p q : α → Bool} {l : List α} {a : α}
    (leading : l.Pairwise fun a b => p b = true → p a = true)
    (h : (l.filter p).find? q = some a) : l.find? q = some a := by
  induction l with
  | nil => cases h
  | cons b l ih =>
    obtain ⟨first, rest⟩ := List.pairwise_cons.1 leading
    cases here : p b with
    | true =>
      rw [List.filter_cons_of_pos here, List.find?_cons] at h
      rw [List.find?_cons]
      cases fits : q b with
      | true => rwa [fits] at h
      | false =>
        rw [fits] at h
        exact ih rest h
    | false =>
      -- None of those that follow is kept either.
      have none : l.filter p = [] := by
        refine List.filter_eq_nil_iff.2 fun c there kept => ?_
        rw [first c there kept] at here
        cases here
      rw [List.filter_cons_of_neg (by simp [here]), none] at h
      cases h

/-- The last patch set of a revision that is shown is the last one also where more are shown. -/
theorem last_shown {A B : OptionSet} (c : Change)
    (all : A.contains .allRevisions = true → B.contains .allRevisions = true)
    {q : PatchSet → Bool} {p : PatchSet}
    (h : (shownPatchSets A c).reverse.find? q = some p) :
    (shownPatchSets B c).reverse.find? q = some p := by
  have every : ∀ C : OptionSet, C.contains .allRevisions = true →
      shownPatchSets C c = sortPatchSets c.patchSets := fun C shows => by
    simp [shownPatchSets, shows]
  have current : ∀ C : OptionSet, C.contains .allRevisions = false →
      shownPatchSets C c = (sortPatchSets c.patchSets).filter (isCurrent c) := fun C hides => by
    simp [shownPatchSets, hides]
  cases shows : A.contains .allRevisions with
  | true => rwa [every A shows, ← every B (all shows)] at h
  | false =>
    rw [current A shows] at h
    cases more : B.contains .allRevisions with
    | false => rwa [current B more]
    | true =>
      rw [every B more]
      rw [← List.filter_reverse] at h
      refine find?_of_leading (List.pairwise_reverse.2 ?_) h
      refine (ascending_sortPatchSets c.patchSets).imp_of_mem fun {p q} _ there less => ?_
      exact isCurrent_of_le (mem_sortPatchSets.1 there) less

theorem extends_hashtagsField (tags : List String) :
    Extends ["hashtags"] (ChangeReport.hashtagsField tags) (ChangeReport.hashtagsField tags) := by
  unfold ChangeReport.hashtagsField
  split
  · exact .absent "hashtags" (listJson .text) none
  · exact .field _ (.equal _)

/-- All options of the first set are in the second. -/
def OptionSet.Subset (A B : OptionSet) : Prop :=
  ∀ o, A.contains o = true → B.contains o = true

section
variable {A B : OptionSet} (h : A.Subset B)
include h

theorem OptionSet.Subset.showsLabels (shows : showsLabels A = true) : showsLabels B = true := by
  rw [CodeReview.showsLabels, Bool.or_eq_true] at shows ⊢
  exact shows.imp (h _) (h _)

theorem OptionSet.Subset.showsRevisions (shows : showsRevisions A = true) :
    showsRevisions B = true := by
  rw [CodeReview.showsRevisions, Bool.or_eq_true] at shows ⊢
  exact shows.imp (h _) (h _)

theorem OptionSet.Subset.showsCommit {current : Bool} (shows : showsCommit A current = true) :
    showsCommit B current = true := by
  rw [CodeReview.showsCommit, Bool.or_eq_true, Bool.and_eq_true] at shows ⊢
  exact shows.imp (h _) (And.imp_right (h _))

theorem OptionSet.Subset.showsFiles {current : Bool} (shows : showsFiles A current = true) :
    showsFiles B current = true := by
  rw [CodeReview.showsFiles, Bool.or_eq_true, Bool.and_eq_true] at shows ⊢
  exact shows.imp (h _) (And.imp_right (h _))

variable {shown more : AccountId → AccountSummary} (reveals : Reveals shown more)
include reveals

theorem revisionsOf_contained (c : Change) :
    ContainedIn (sectionJson RevisionReport.toJson (revisionsOf shown A c))
      (sectionJson RevisionReport.toJson (revisionsOf more B c)) := by
  refine contained_sectionJson nodup_byName fun k r found => ?_
  obtain ⟨p, last, rfl⟩ := mem_byName.1 found
  exact ⟨_, mem_byName.2 ⟨p, last_shown c (h _) last, rfl⟩,
    RevisionReport.contained reveals p (isCurrent c p) h.showsCommit h.showsFiles⟩

/-- A report under more options contains the report under fewer, if both or neither of them skip
the sizes. -/
theorem ChangeReport.contained (sizes : A.contains .skipDiffstat = B.contains .skipDiffstat)
    (labels : List Label) (s : Snapshot) (contributions : List Contribution) :
    ContainedIn (ChangeReport.of shown labels A s contributions).toJson
      (ChangeReport.of more labels B s contributions).toJson := by
  -- The sizes of the same patch set head both reports, or no sizes do.
  have sized : sizedPatchSet A s.state = sizedPatchSet B s.state := by
    rw [sizedPatchSet, sizedPatchSet, sizes]
  have basics := Extends.same [("id", .text s.state.triplet), ("project", .text s.state.project),
    ("branch", .text s.state.branch)] rfl
  have topic := Extends.unchanged "topic" .text s.state.topic
  have hashtags := extends_hashtagsField s.state.hashtags
  have state := Extends.same [("change_id", .text s.state.key), ("subject", .text s.state.subject),
    ("status", s.state.status.toJson), ("created", .text (Calendar.timestamp s.state.created)),
    ("updated", .text (Calendar.timestamp s.state.updated))] rfl
  have submittable := Extends.demand "submittable" (h .submittable)
    (.equal (.bool (isSubmittable labels s.state)))
  have size : ∀ (name : String) (lines : PatchSet → UInt32),
      Extends [name] (optionalField name .ofUInt32 ((sizedPatchSet A s.state).map lines))
        (optionalField name .ofUInt32 ((sizedPatchSet B s.state).map lines)) := by
    intro name lines
    rw [sized]
    exact .unchanged name _ _
  have number := Extends.field "_number" (.equal s.state.id.toJson)
  have owner := Extends.field "owner" (AccountSummary.contained (reveals s.state.owner))
  have metaId := Extends.field "meta_rev_id" (.equal (.text s.metaId.hex))
  have labelled := Extends.demand "labels" h.showsLabels
    (labelsOf_contained reveals s.state labels (h .detailedLabels))
  have messages := Extends.demand "messages" (h .messages)
    (contained_listJson s.state.messages fun m _ => MessageReport.contained reveals m)
  have current := Extends.demand_optional "current_revision" .text
    (s.state.currentPatchSet.map fun p => p.revision.hex) h.showsRevisions
  have revisions := Extends.demand "revisions" h.showsRevisions
    (revisionsOf_contained h reveals s.state)
  have plugins := Extends.unchanged "plugins" (listJson Contribution.toJson)
    (if contributions.isEmpty then none else some contributions)
  refine Extends.contained (["id", "project", "branch"] ++ ["topic"] ++ ["hashtags"]
    ++ ["change_id", "subject", "status", "created", "updated"] ++ ["submittable"]
    ++ ["insertions"] ++ ["deletions"] ++ (["_number"] ++ (["owner"] ++ ["meta_rev_id"]))
    ++ ["labels"] ++ ["messages"] ++ ["current_revision"] ++ ["revisions"] ++ ["plugins"])
    (by decide) ?_
  exact (((((((((((basics.append topic).append hashtags).append state).append
    submittable).append (size _ _)).append (size _ _)).append (number.append (owner.append
    metaId))).append labelled).append messages).append current).append revisions).append plugins

end

theorem ChangeReport.toJson_unsized (r : ChangeReport) :
    { r with insertions := none, deletions := none }.toJson =
      r.toJson.without ["insertions", "deletions"] := by
  have tags : (hashtagsField r.hashtags).filter (fun e => e.1 ∉ ["insertions", "deletions"]) =
      hashtagsField r.hashtags := by
    unfold hashtagsField
    split <;> rfl
  simp only [toJson, without, List.filter_append, filter_optionalField, tags]
  rfl

/-- The options that show something. -/
def OutputOption.showing : List OutputOption :=
  [.labels, .detailedLabels, .currentRevision, .allRevisions, .currentCommit, .allCommits,
    .currentFiles, .allFiles, .detailedAccounts, .messages, .submittable]

/-- The options that are said to have an effect. -/
def OutputOption.documented : List OutputOption :=
  showing ++ [.skipDiffstat]

section
variable {A B : OptionSet} (h : ∀ o ∈ OutputOption.showing, A.contains o = B.contains o)
include h

theorem showsLabels_congr : showsLabels A = showsLabels B := by
  rw [showsLabels, showsLabels, h .labels (by decide), h .detailedLabels (by decide)]

theorem showsRevisions_congr : showsRevisions A = showsRevisions B := by
  rw [showsRevisions, showsRevisions, h .currentRevision (by decide), h .allRevisions (by decide)]

theorem shown_congr (w : World) : w.shown A = w.shown B := by
  rw [World.shown, World.shown, h .detailedAccounts (by decide)]

variable (shown : AccountId → AccountSummary)

theorem RevisionReport.of_congr (current : Bool) :
    RevisionReport.of shown A current = RevisionReport.of shown B current := by
  have commit : showsCommit A current = showsCommit B current := by
    rw [showsCommit, showsCommit, h .allCommits (by decide), h .currentCommit (by decide)]
  have files : showsFiles A current = showsFiles B current := by
    rw [showsFiles, showsFiles, h .allFiles (by decide), h .currentFiles (by decide)]
  funext p
  rw [RevisionReport.of, RevisionReport.of, commit, files]

theorem revisionsOf_congr (c : Change) : revisionsOf shown A c = revisionsOf shown B c := by
  have patchSets : shownPatchSets A c = shownPatchSets B c := by
    rw [shownPatchSets, shownPatchSets, h .allRevisions (by decide)]
  rw [revisionsOf, revisionsOf, patchSets]
  simp only [RevisionReport.of_congr h]

/-- Sets that agree on what is shown lead to the same report up to its sizes. -/
theorem ChangeReport.of_congr (labels : List Label) (s : Snapshot)
    (contributions : List Contribution) :
    ChangeReport.of shown labels A s contributions =
      { ChangeReport.of shown labels B s contributions with
        insertions := (sizedPatchSet A s.state).map PatchSet.insertions
        deletions := (sizedPatchSet A s.state).map PatchSet.deletions } := by
  simp only [ChangeReport.of, labelsOf, showsLabels_congr h, showsRevisions_congr h,
    revisionsOf_congr h, h .detailedLabels (by decide), h .messages (by decide),
    h .submittable (by decide)]

end

/-- The report of a snapshot that the options lead to, made from the accounts of a world. -/
def World.report (w : World) (labels : List Label) (s : Snapshot)
    (contributions : List Contribution) (options : OptionSet) : ChangeReport :=
  .of (w.shown options) labels options s contributions

section
variable (w : World) (labels : List Label) (s : Snapshot) (contributions : List Contribution)

theorem run_reportSnapshot_eq (options : OptionSet) :
    (reportSnapshot labels options s contributions).run w =
      (if .getAccount ∈ w.failing then .error (.ofStore .lockPoisoned)
        else .ok (w.report labels s contributions options), w) := by
  split
  · next fails => exact run_reportSnapshot_fails fails labels options s contributions
  · next reads => exact run_reportSnapshot reads labels options s contributions

theorem report_skipDiffstat (A : OptionSet) :
    w.report labels s contributions (A.insert .skipDiffstat) =
      { w.report labels s contributions A with insertions := none, deletions := none } := by
  have same : ∀ o ∈ OutputOption.showing, (A.insert .skipDiffstat).contains o = A.contains o := by
    intro o there
    have other : OutputOption.skipDiffstat ≠ o := fun skip => by
      subst skip
      revert there
      decide
    rw [OptionSet.contains_insert, decide_eq_false other, Bool.or_false]
  have unsized : sizedPatchSet (A.insert .skipDiffstat) s.state = none := by
    simp [sizedPatchSet, OptionSet.contains_insert]
  rw [World.report, World.report, ChangeReport.of_congr same, shown_congr same, unsized]
  rfl

theorem report_congr {A B : OptionSet}
    (h : ∀ o ∈ OutputOption.documented, A.contains o = B.contains o) :
    w.report labels s contributions A = w.report labels s contributions B := by
  have same : ∀ o ∈ OutputOption.showing, A.contains o = B.contains o :=
    fun o there => h o (List.mem_append_left _ there)
  have sized : sizedPatchSet A s.state = sizedPatchSet B s.state := by
    rw [sizedPatchSet, sizedPatchSet, h .skipDiffstat (by decide)]
  rw [World.report, World.report, ChangeReport.of_congr same, shown_congr same, sized]
  rfl

/-- A report is made wherever accounts can be read. More options lead to a report that contains
the one under fewer, `SKIP_DIFFSTAT` takes just the two sizes out of it, and options that are not
documented do not matter. -/
theorem options_only_add :
    ∃ report : OptionSet → ChangeReport,
      (∀ A, (reportSnapshot labels A s contributions).run w =
        (if .getAccount ∈ w.failing then .error (.ofStore .lockPoisoned) else .ok (report A), w)) ∧
      (∀ A B, A.Subset B → A.contains .skipDiffstat = B.contains .skipDiffstat →
        (report A).toJson.ContainedIn (report B).toJson) ∧
      (∀ A, (report (A.insert .skipDiffstat)).toJson =
        (report A).toJson.without ["insertions", "deletions"]) ∧
      ∀ A B, (∀ o ∈ OutputOption.documented, A.contains o = B.contains o) →
        report A = report B := by
  refine ⟨w.report labels s contributions, run_reportSnapshot_eq w labels s contributions,
    fun A B more sizes => ?_, fun A => ?_, fun A B agree => report_congr w labels s _ agree⟩
  · have reveals : Reveals (w.shown A) (w.shown B) := reveals_summary w.store (more _)
    exact ChangeReport.contained more reveals sizes labels s contributions
  · rw [report_skipDiffstat]
    exact ChangeReport.toJson_unsized _

end

/-- A snapshot in which a patch set and a revision are each repeated. -/
def rebased : Snapshot where
  metaId := ⟨List.replicate 20 9, rfl⟩
  state := {
    id := ⟨1⟩, project := "demo", branch := "main", key := "I1", subject := "Fix", status := .new
    owner := ⟨1000⟩, topic := none, hashtags := ["red"], created := 0, updated := 0
    patchSets := [⟨2, ⟨List.replicate 20 2, rfl⟩, ⟨1001⟩, 0, "Fix", [⟨"a", 1, 0⟩]⟩,
      ⟨1, ⟨List.replicate 20 2, rfl⟩, ⟨1000⟩, 0, "Fix", []⟩,
      ⟨2, ⟨List.replicate 20 3, rfl⟩, ⟨1000⟩, 0, "Fix", []⟩]
    approvals := [⟨"Code-Review", ⟨1000⟩, 2, 2, 0⟩]
    messages := [⟨"m1", some ⟨1000⟩, 0, "Uploaded.", some 1⟩] }

/-- A world with one account. -/
def ownerWorld : World where
  store := .memory ⟨[⟨⟨1000⟩, some "owner", none, none, true, 0⟩], 1001, [], 1, []⟩
  failing := []
  directory := .listed []
  now := 0
  readOnly := false

theorem rebased_only_adds :
    ∃ few more unsized unread : ChangeReport,
      (reportSnapshot [⟨"Code-Review", -2, 2⟩] (.ofList [.labels, .currentRevision]) rebased
        []).run ownerWorld = (.ok few, ownerWorld) ∧
      (reportSnapshot [⟨"Code-Review", -2, 2⟩] (.ofList [.detailedLabels, .labels, .allRevisions,
        .currentRevision, .allCommits, .detailedAccounts, .messages]) rebased []).run ownerWorld =
          (.ok more, ownerWorld) ∧
      (reportSnapshot [⟨"Code-Review", -2, 2⟩] (.ofList [.labels, .currentRevision, .skipDiffstat])
        rebased []).run ownerWorld = (.ok unsized, ownerWorld) ∧
      (reportSnapshot [⟨"Code-Review", -2, 2⟩] (.ofList [.labels, .currentRevision, .reviewed])
        rebased []).run ownerWorld = (.ok unread, ownerWorld) ∧
      few.toJson.ContainedIn more.toJson ∧
      unsized.toJson = few.toJson.without ["insertions", "deletions"] ∧ unread = few := by
  obtain ⟨report, runs, adds, hides, ignores⟩ :=
    options_only_add ownerWorld [⟨"Code-Review", -2, 2⟩] rebased []
  refine ⟨_, _, _, _, runs _, runs _, runs _, runs _, adds _ _ ?_ (by decide), hides _,
    ignores _ _ (by decide)⟩
  intro o
  cases o <;> decide

end CodeReview
