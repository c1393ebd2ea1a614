import Mathlib.Data.List.Nodup
import CodeReview.Proofs.Change.Options
import CodeReview.Proofs.Identifier
set_option autoImplicit false

/-!
What a report tells of the patch sets. Sorting them puts the current one last, so its entry is the
one that stays under its revision, whatever numbers and revisions are repeated. Where none are, the
section lists the patch sets in the order of their numbers.
-/
namespace CodeReview
open Act Json

theorem perm_insertPatchSet (p : PatchSet) (ps : List PatchSet) :
    (insertPatchSet p ps).Perm (p :: ps) := by
  induction ps with
  | nil => exact .refl _
  | cons q ps ih =>
    rw [insertPatchSet]
    split
    · exact .refl _
    · exact (ih.cons q).trans (.swap p q ps)

theorem perm_sortPatchSets (ps : List PatchSet) : (sortPatchSets ps).Perm ps := by
  induction ps with
  | nil => exact .refl _
  | cons p ps ih => exact (perm_insertPatchSet p _).trans (ih.cons p)

theorem latest_swap {p q : PatchSet} (less : q.number < p.number) (ps : List PatchSet) :
    PatchSet.latest (q :: p :: ps) = PatchSet.latest (p :: q :: ps) := by
  simp only [PatchSet.latest]
  cases PatchSet.latest ps <;> grind

theorem latest_insertPatchSet (p : PatchSet) (ps : List PatchSet) :
    PatchSet.latest (insertPatchSet p ps) = PatchSet.latest (p :: ps) := by
  induction ps with
  | nil => rfl
  | cons q ps ih =>
    rw [insertPatchSet]
    split
    · rfl
    · next less =>
      calc PatchSet.latest (q :: insertPatchSet p ps)
        _ = PatchSet.latest (q :: p :: ps) := by
          rw [PatchSet.latest, ih]
          rfl
        _ = PatchSet.latest (p :: q :: ps) := latest_swap (UInt32.not_le.1 less) ps

theorem latest_sortPatchSets (ps : List PatchSet) :
    PatchSet.latest (sortPatchSets ps) = PatchSet.latest ps := by
  induction ps with
  | nil => rfl
  | cons p ps ih =>
    rw [PatchSet.latest, ← ih]
    exact latest_insertPatchSet p _

theorem latest_of_ascending {ps : List PatchSet}
    (ascending : ps.Pairwise fun p q => p.number ≤ q.number) :
    PatchSet.latest ps = ps.getLast? := by
  induction ps with
  | nil => rfl
  | cons p ps ih =>
    obtain ⟨first, rest⟩ := List.pairwise_cons.1 ascending
    rw [PatchSet.latest, ih rest, List.getLast?_cons]
    cases last : ps.getLast? with
    | none => rfl
    | some q => exact if_pos (first q (List.mem_of_getLast? last))

/-- In the order of numbers, equal ones in their order, the current patch set is the last one. -/
theorem getLast?_sortPatchSets (ps : List PatchSet) :
    (sortPatchSets ps).getLast? = PatchSet.latest ps := by
  rw [← latest_of_ascending (ascending_sortPatchSets ps), latest_sortPatchSets]

theorem find?_reverse_of_getLast? {α : Type} {q : α → Bool} {l : List α} {a : α}
    (last : l.getLast? = some a) (fits : q a = true) : l.reverse.find? q = some a := by
  obtain ⟨before, rfl⟩ := List.getLast?_eq_some_iff.1 last
  rw [List.reverse_append, List.reverse_singleton, List.singleton_append,
    List.find?_cons_of_pos fits]

section
variable {c : Change} {p : PatchSet}

theorem mem_of_currentPatchSet (current : c.currentPatchSet = some p) : p ∈ c.patchSets := by
  rw [Change.currentPatchSet, ← getLast?_sortPatchSets] at current
  exact mem_sortPatchSets.1 (List.mem_of_getLast? current)

theorem exists_currentPatchSet_iff : (∃ p, c.currentPatchSet = some p) ↔ c.patchSets ≠ [] := by
  constructor
  · rintro ⟨p, current⟩
    exact List.ne_nil_of_mem (mem_of_currentPatchSet current)
  · intro some
    obtain ⟨p, there⟩ := List.exists_mem_of_ne_nil _ some
    obtain ⟨q, current, -⟩ := PatchSet.le_latest there
    exact ⟨q, current⟩

theorem isCurrent_of_currentPatchSet (current : c.currentPatchSet = some p) :
    isCurrent c p = true := by
  rw [isCurrent, current]
  exact decide_eq_true rfl

/-- Where no number is repeated, only the current patch set has its number. -/
theorem isCurrent_iff (numbers : (c.patchSets.map PatchSet.number).Nodup)
    (there : p ∈ c.patchSets) : isCurrent c p = true ↔ c.currentPatchSet = some p := by
  refine ⟨fun alike => ?_, isCurrent_of_currentPatchSet⟩
  rw [isCurrent, decide_eq_true_iff, eq_comm, Option.map_eq_some_iff] at alike
  obtain ⟨q, current, same⟩ := alike
  rw [current, List.inj_on_of_nodup_map numbers (mem_of_currentPatchSet current) there same]

/-- Whether all patch sets are shown or not, the current one comes last. -/
theorem getLast?_shownPatchSets (options : OptionSet) (c : Change) :
    (shownPatchSets options c).getLast? = c.currentPatchSet := by
  have last := getLast?_sortPatchSets c.patchSets
  rw [shownPatchSets, List.getLast?_filter]
  cases current : c.currentPatchSet with
  | none =>
    rw [Change.currentPatchSet, ← last, List.getLast?_eq_none_iff] at current
    rw [current]
    rfl
  | some p =>
    refine find?_reverse_of_getLast? (last.trans current) ?_
    rw [isCurrent_of_currentPatchSet current, Bool.or_true]

theorem mem_shownPatchSets (options : OptionSet)
    (numbers : (c.patchSets.map PatchSet.number).Nodup) :
    p ∈ shownPatchSets options c ↔ p ∈ c.patchSets ∧
      (options.contains .allRevisions = true ∨ c.currentPatchSet = some p) := by
  rw [shownPatchSets, List.mem_filter, mem_sortPatchSets, Bool.or_eq_true]
  exact and_congr_right fun there => or_congr_right (isCurrent_iff numbers there)

/-- Where no number is repeated, none is shown twice. -/
theorem ascending_shownPatchSets (options : OptionSet)
    (numbers : (c.patchSets.map PatchSet.number).Nodup) :
    (shownPatchSets options c).Pairwise fun p q => p.number < q.number := by
  have distinct : (sortPatchSets c.patchSets).Pairwise fun p q => p.number ≠ q.number :=
    List.pairwise_map.1 (((perm_sortPatchSets c.patchSets).map _).nodup_iff.2 numbers)
  refine List.Pairwise.filter _ ?_
  exact (ascending_sortPatchSets c.patchSets).imp₂ (fun _ _ => UInt32.lt_of_le_of_ne) distinct

theorem nodup_shown_revisions (options : OptionSet)
    (revisions : (c.patchSets.map PatchSet.revision).Nodup) :
    ((shownPatchSets options c).map fun p => p.revision.hex).Nodup := by
  have distinct : ((sortPatchSets c.patchSets).map fun p => p.revision.hex).Nodup := by
    rw [((perm_sortPatchSets c.patchSets).map _).nodup_iff]
    have hexed := revisions.map ObjectId.hex_injective
    rwa [List.map_map] at hexed
  exact (List.filter_sublist.map _).nodup distinct

end

/-- The entry has the number, the time and the uploader of a patch set of a change, and its commit
and files if the options ask for all of them or ask for the current ones and it is current. -/
structure RevisionReport.Describes (r : RevisionReport) (shown : AccountId → AccountSummary)
    (options : OptionSet) (c : Change) (p : PatchSet) : Prop where
  number : r.number = p.number
  created : r.created = Calendar.timestamp p.created
  uploader : r.uploader = shown p.uploader
  commit : ∀ commit, r.commit = some commit ↔
    (options.contains .allCommits = true ∨
      c.currentPatchSet = some p ∧ options.contains .currentCommit = true) ∧
    commit = ⟨p.subject, p.commitMessage⟩
  files : ∀ files, r.files = some files ↔
    (options.contains .allFiles = true ∨
      c.currentPatchSet = some p ∧ options.contains .currentFiles = true) ∧
    files = fileReports p

theorem RevisionReport.describes_of (shown : AccountId → AccountSummary) (options : OptionSet)
    {c : Change} {p : PatchSet} (current : isCurrent c p = true ↔ c.currentPatchSet = some p) :
    (RevisionReport.of shown options (isCurrent c p) p).Describes shown options c p where
  number := rfl
  created := rfl
  uploader := rfl
  commit commit := by
    rw [RevisionReport.of, Option.ite_none_right_eq_some, Option.some_inj, showsCommit,
      Bool.or_eq_true, Bool.and_eq_true, current, @eq_comm _ commit]
    rfl
  files files := by
    rw [RevisionReport.of, Option.ite_none_right_eq_some, Option.some_inj, showsFiles,
      Bool.or_eq_true, Bool.and_eq_true, current, @eq_comm _ files]

theorem fileReports_of_nodup {p : PatchSet} (paths : (p.files.map FileStat.path).Nodup) :
    fileReports p = p.files.map fun f => (f.path, ⟨nonzero f.insertions, nonzero f.deletions⟩) :=
  byName_of_nodup paths

theorem showsRevisions_iff {options : OptionSet} : showsRevisions options = true ↔
    options.contains .currentRevision = true ∨ options.contains .allRevisions = true := by
  rw [showsRevisions, Bool.or_eq_true]

section
variable (w : World) (labels : List Label) (s : Snapshot) (contributions : List Contribution)
  {options : OptionSet}
  (asked : options.contains .currentRevision = true ∨ options.contains .allRevisions = true)
include asked

/-- A report that shows revisions names a current one exactly if there are patch sets, and the
entry under its name describes the current patch set, whose size heads the report. -/
theorem current_revision_described :
    ∃ (report : ChangeReport) (entries : List (String × RevisionReport)),
      (reportSnapshot labels options s contributions).run w =
        (if .getAccount ∈ w.failing then .error (.ofStore .lockPoisoned) else .ok report, w) ∧
      report.revisions = some entries ∧ (entries.map Prod.fst).Nodup ∧
      ((∃ key, report.currentRevision = some key) ↔ s.state.patchSets ≠ []) ∧
      ∀ key, report.currentRevision = some key → ∃ p r,
        s.state.currentPatchSet = some p ∧ key = p.revision.hex ∧ (key, r) ∈ entries ∧
          r.Describes (w.shown options) options s.state p ∧
          (options.contains .skipDiffstat = false →
            report.insertions = some p.insertions ∧ report.deletions = some p.deletions) := by
  have shows := showsRevisions_iff.2 asked
  have named : (w.report labels s contributions options).currentRevision =
      s.state.currentPatchSet.map fun p => p.revision.hex := if_pos shows
  refine ⟨w.report labels s contributions options, revisionsOf (w.shown options) options s.state,
    run_reportSnapshot_eq w labels s contributions options, if_pos shows, nodup_byName, ?_,
    fun key given => ?_⟩
  · rw [named, ← exists_currentPatchSet_iff]
    simp
  · obtain ⟨p, current, rfl⟩ := Option.map_eq_some_iff.1 (named.symm.trans given)
    -- The current patch set comes last, so no entry takes the place of its own.
    have last : (shownPatchSets options s.state).getLast? = some p :=
      (getLast?_shownPatchSets options s.state).trans current
    have alike := isCurrent_of_currentPatchSet current
    refine ⟨p, _, current, rfl,
      mem_byName.2 ⟨p, find?_reverse_of_getLast? last (decide_eq_true rfl), rfl⟩,
      RevisionReport.describes_of _ _ (iff_of_true alike current), fun sized => ?_⟩
    have heads : sizedPatchSet options s.state = some p := by
      rw [sizedPatchSet, sized, current]
      rfl
    exact ⟨congrArg (Option.map PatchSet.insertions) heads,
      congrArg (Option.map PatchSet.deletions) heads⟩

end

theorem rebased_described :
    ∃ (report : ChangeReport) (entries : List (String × RevisionReport)) (r : RevisionReport),
      (reportSnapshot [] (.ofList [.currentRevision, .currentCommit]) rebased []).run ownerWorld =
        (.ok report, ownerWorld) ∧
      report.currentRevision = some (ObjectId.hex ⟨List.replicate 20 3, rfl⟩) ∧
      report.revisions = some entries ∧
      (ObjectId.hex ⟨List.replicate 20 3, rfl⟩, r) ∈ entries ∧ r.number = 2 ∧
      r.uploader = .idOnly ⟨1000⟩ ∧ r.commit = some ⟨"Fix", "Fix"⟩ := by
  obtain ⟨report, entries, runs, shown, -, named, described⟩ := @current_revision_described
    ownerWorld [] rebased [] (.ofList [.currentRevision, .currentCommit]) (.inl (by decide))
  obtain ⟨key, given⟩ := named.2 (List.cons_ne_nil _ _)
  obtain ⟨p, r, current, rfl, there, describes, -⟩ := described key given
  have latest : rebased.state.currentPatchSet =
    some ⟨2, ⟨List.replicate 20 3, rfl⟩, ⟨1000⟩, 0, "Fix", []⟩ := rfl
  obtain rfl := Option.some.inj (latest.symm.trans current)
  exact ⟨report, entries, r, runs, given, shown, there, describes.number, describes.uploader,
    (describes.commit _).2 ⟨.inr ⟨latest, by decide⟩, by decide⟩⟩

section
variable (w : World) (labels : List Label) (s : Snapshot) (contributions : List Contribution)
  {options : OptionSet}
  (asked : options.contains .currentRevision = true ∨ options.contains .allRevisions = true)
include asked

/-- Where neither numbers nor revisions are repeated, the section lists the patch sets in the order
of their numbers, all of them or the current one. -/
theorem revisions_listed (numbers : (s.state.patchSets.map PatchSet.number).Nodup)
    (revisions : (s.state.patchSets.map PatchSet.revision).Nodup) :
    ∃ (report : ChangeReport) (listed : List PatchSet) (entry : PatchSet → RevisionReport),
      (reportSnapshot labels options s contributions).run w =
        (if .getAccount ∈ w.failing then .error (.ofStore .lockPoisoned) else .ok report, w) ∧
      report.revisions = some (listed.map fun p => (p.revision.hex, entry p)) ∧
      (listed.Pairwise fun p q => p.number < q.number) ∧
      (∀ p, p ∈ listed ↔ p ∈ s.state.patchSets ∧
        (options.contains .allRevisions = true ∨ s.state.currentPatchSet = some p)) ∧
      ∀ p ∈ listed, (entry p).Describes (w.shown options) options s.state p ∧
        ((p.files.map FileStat.path).Nodup → ∀ files, (entry p).files = some files →
          files = p.files.map fun f => (f.path, ⟨nonzero f.insertions, nonzero f.deletions⟩)) := by
  have shows := showsRevisions_iff.2 asked
  refine ⟨w.report labels s contributions options, shownPatchSets options s.state,
    fun p => .of (w.shown options) options (isCurrent s.state p) p,
    run_reportSnapshot_eq w labels s contributions options, ?_,
    ascending_shownPatchSets options numbers, fun p => mem_shownPatchSets options numbers,
    fun p there => ?_⟩
  · exact (if_pos shows).trans (congrArg some
      (byName_of_nodup (nodup_shown_revisions options revisions)))
  · have inside := ((mem_shownPatchSets options numbers).1 there).1
    have describes := RevisionReport.describes_of (w.shown options) options
      (isCurrent_iff numbers inside)
    refine ⟨describes, fun paths files given => ?_⟩
    rw [((describes.files files).1 given).2, fileReports_of_nodup paths]

end

/-- A patch set that adds a line to one file and takes two out of another. -/
def trimming : PatchSet :=
  ⟨2, ⟨List.replicate 20 8, rfl⟩, ⟨1000⟩, 0, "Fix", [⟨"a", 1, 0⟩, ⟨"b", 0, 2⟩]⟩

/-- A snapshot in which the later of two patch sets stands first. -/
def reordered : Snapshot :=
  { rebased with state := { rebased.state with
      patchSets := [trimming, ⟨1, ⟨List.replicate 20 1, rfl⟩, ⟨1000⟩, 0, "Fix", []⟩] } }

theorem reordered_listed :
    ∃ (report : ChangeReport) (entries : List (String × RevisionReport)) (r : RevisionReport),
      (reportSnapshot [] (.ofList [.allRevisions, .currentFiles]) reordered []).run ownerWorld =
        (.ok report, ownerWorld) ∧
      report.revisions = some entries ∧ (trimming.revision.hex, r) ∈ entries ∧
      r.commit = none ∧ r.files = some [("a", ⟨some 1, none⟩), ("b", ⟨none, some 2⟩)] := by
  obtain ⟨report, listed, entry, runs, shown, -, members, described⟩ := @revisions_listed
    ownerWorld [] reordered [] (.ofList [.allRevisions, .currentFiles]) (.inr (by decide))
    (by decide) (by decide)
  have there : trimming ∈ listed := (members trimming).2 ⟨List.mem_cons_self, .inl (by decide)⟩
  obtain ⟨describes, counted⟩ := described trimming there
  have files := (describes.files _).2 ⟨.inr ⟨rfl, by decide⟩, rfl⟩
  refine ⟨report, _, entry trimming, runs, shown, List.mem_map_of_mem there, ?_,
    files.trans (congrArg some (counted (by decide) _ files))⟩
  refine Option.eq_none_iff_forall_ne_some.2 fun commit given => ?_
  exact absurd ((describes.commit commit).1 given).1 (by decide)

end CodeReview
