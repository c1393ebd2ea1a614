import Mathlib.Algebra.Ring.Nat
import CodeReview.Proofs.Change.Revisions
set_option autoImplicit false

/-!
Sizes of patch sets. Counts stop at the greatest 32-bit number, file by file and again where both
are added. As none of them is negative, this is the same as stopping once, at the exact sum. So the
head of a report, its section of files and the entry of the plugin tell the same counts, and none
of them depends on the order of the files.
-/
namespace CodeReview
open Act Json

/-- An exact number, or the greatest one of 32 bits if it is greater. -/
def capped (n : Nat) : Nat :=
  min n (UInt32.size - 1)

theorem capped_le_capped {m n : Nat} (h : m ≤ n) : capped m ≤ capped n := by
  simp only [capped]
  omega

theorem capped_add_capped (m n : Nat) : capped (capped m + capped n) = capped (m + n) := by
  simp only [capped]
  omega

theorem capped_toNat (n : UInt32) : capped n.toNat = n.toNat :=
  Nat.min_eq_left (Nat.le_pred_of_lt n.toNat_lt)

/-- The exact sum of a count over files. -/
def FileStat.total (count : FileStat → UInt32) (files : List FileStat) : Nat :=
  (files.map fun f => (count f).toNat).sum

namespace FileStat

variable (count : FileStat → UInt32)

theorem total_cons (f : FileStat) (files : List FileStat) :
    total count (f :: files) = (count f).toNat + total count files :=
  List.sum_cons

theorem total_perm {files others : List FileStat} (same : files.Perm others) :
    total count files = total count others :=
  (same.map _).sum_nat

theorem total_le_of_added {f : FileStat} {files more : List FileStat}
    (added : more.Perm (f :: files)) : total count files ≤ total count more := by
  rw [total_perm count added, total_cons]
  exact Nat.le_add_left _ _

/-- Stopping at each file on the way is stopping once at the end. -/
theorem toNat_foldl_saturatingAdd (files : List FileStat) (start : UInt32) :
    (files.foldl (fun sum f => saturatingAdd sum (count f)) start).toNat =
      capped (start.toNat + total count files) := by
  induction files generalizing start with
  | nil => exact (capped_toNat start).symm
  | cons f files ih =>
    calc ((f :: files).foldl (fun sum f => saturatingAdd sum (count f)) start).toNat
      _ = capped ((saturatingAdd start (count f)).toNat + total count files) := ih _
      _ = capped (start.toNat + total count (f :: files)) := by
        rw [toNat_saturatingAdd, total_cons, capped, capped]
        omega

end FileStat

namespace PatchSet

variable (p : PatchSet)

theorem toNat_insertions :
    p.insertions.toNat = capped (FileStat.total FileStat.insertions p.files) := by
  rw [insertions, FileStat.toNat_foldl_saturatingAdd, UInt32.toNat_zero, Nat.zero_add]

theorem toNat_deletions :
    p.deletions.toNat = capped (FileStat.total FileStat.deletions p.files) := by
  rw [deletions, FileStat.toNat_foldl_saturatingAdd, UInt32.toNat_zero, Nat.zero_add]

theorem toNat_lines : p.lines.toNat = capped (FileStat.total FileStat.insertions p.files +
    FileStat.total FileStat.deletions p.files) := by
  rw [lines, toNat_saturatingAdd, toNat_insertions, toNat_deletions]
  exact capped_add_capped _ _

variable {p} {q : PatchSet}

theorem counts_perm (same : p.files.Perm q.files) :
    p.insertions = q.insertions ∧ p.deletions = q.deletions ∧ p.lines = q.lines := by
  simp only [← UInt32.toNat_inj, toNat_insertions, toNat_deletions, toNat_lines,
    FileStat.total_perm _ same, and_self]

theorem counts_le_of_added {f : FileStat} (added : q.files.Perm (f :: p.files)) :
    p.insertions ≤ q.insertions ∧ p.deletions ≤ q.deletions ∧ p.lines ≤ q.lines := by
  have inserted := FileStat.total_le_of_added FileStat.insertions added
  have deleted := FileStat.total_le_of_added FileStat.deletions added
  simp only [UInt32.le_iff_toNat_le, toNat_insertions, toNat_deletions, toNat_lines]
  exact ⟨capped_le_capped inserted, capped_le_capped deleted,
    capped_le_capped (Nat.add_le_add inserted deleted)⟩

end PatchSet

/-- The names of the sizes, in ascending order. -/
def sizeNames : List String := ["XS", "S", "M", "L", "XL"]

/-- A size is named after the number of bounds below it. -/
theorem idxOf_sizeBucket (lines : UInt32) :
    sizeNames.idxOf (sizeBucket lines) = [9, 49, 249, 999].countP (· < lines) := by
  obtain ⟨xs, s, m, l, xl⟩ : sizeNames.idxOf "XS" = 0 ∧ sizeNames.idxOf "S" = 1 ∧
      sizeNames.idxOf "M" = 2 ∧ sizeNames.idxOf "L" = 3 ∧ sizeNames.idxOf "XL" = 4 := by decide
  simp only [sizeBucket, apply_ite sizeNames.idxOf, xs, s, m, l, xl, List.countP_cons,
    List.countP_nil, decide_eq_true_eq]
  grind

/-- More lines never have a smaller size. -/
theorem sizeBucket_mono {m n : UInt32} (h : m ≤ n) :
    sizeNames.idxOf (sizeBucket m) ≤ sizeNames.idxOf (sizeBucket n) := by
  rw [idxOf_sizeBucket, idxOf_sizeBucket]
  refine List.countP_mono_left fun bound _ below => ?_
  rw [decide_eq_true_iff] at below ⊢
  exact UInt32.lt_of_lt_of_le below h

theorem mem_ofFactory_changeSize {batch : List Change} {n : ChangeNumber} {entry : Contribution} :
    (n, entry) ∈ Contribution.ofFactory .changeSize batch ↔
      ∃ c ∈ batch, ∃ p, c.currentPatchSet = some p ∧ n = c.id ∧
        entry = ⟨"change-size", none,
          [("lines", .ofUInt32 p.lines), ("size", .text (sizeBucket p.lines))]⟩ := by
  simp only [Contribution.ofFactory, Factory.changeSize, List.mem_map, List.mem_filterMap,
    Option.map_eq_some_iff]
  constructor
  · rintro ⟨_, ⟨c, there, p, current, rfl⟩, same⟩
    obtain ⟨rfl, rfl⟩ := Prod.mk.inj same
    exact ⟨c, there, p, current, rfl, rfl⟩
  · rintro ⟨c, there, p, current, rfl, rfl⟩
    exact ⟨_, ⟨c, there, p, current, rfl⟩, rfl⟩

/-- The exact sum of a count over a section of files, in which a count of zero is left out. -/
def FileReport.total (count : FileReport → Option UInt32) (files : List (String × FileReport)) :
    Nat :=
  (files.map fun e => ((count e.2).getD 0).toNat).sum

theorem getD_nonzero (n : UInt32) : (nonzero n).getD 0 = n := by
  rw [nonzero]
  split
  · rfl
  · next zero => exact (UInt32.le_zero_iff.1 (UInt32.not_lt.1 zero)).symm

theorem total_fileReports {p : PatchSet} (paths : (p.files.map FileStat.path).Nodup)
    {shown : FileReport → Option UInt32} {count : FileStat → UInt32}
    (shows : ∀ f, shown (.ofStat f) = nonzero (count f)) :
    FileReport.total shown (fileReports p) = FileStat.total count p.files := by
  rw [fileReports_of_nodup paths, FileReport.total, FileStat.total, List.map_map]
  refine congrArg List.sum (List.map_congr_left fun f _ => ?_)
  exact congrArg UInt32.toNat ((congrArg (Option.getD · 0) (shows f)).trans (getD_nonzero _))

section
variable {c : Change} {p : PatchSet} (current : c.currentPatchSet = some p)
include current

theorem mem_revisionsOf_current (shown : AccountId → AccountSummary) (options : OptionSet) :
    (p.revision.hex, .of shown options true p) ∈ revisionsOf shown options c := by
  have last := (getLast?_shownPatchSets options c).trans current
  refine mem_byName.2 ⟨p, find?_reverse_of_getLast? last (decide_eq_true rfl), ?_⟩
  rw [isCurrent_of_currentPatchSet current]

theorem sizedPatchSet_of_current {options : OptionSet}
    (sized : options.contains .skipDiffstat = false) : sizedPatchSet options c = some p := by
  rw [sizedPatchSet, sized, current]
  rfl

end

/-- However they are told, counts are exact sums that stop at the greatest 32-bit number. They
do not depend on the order of the files, and with one more file none of them is less, nor is the
size. Where no path is repeated, the files under the current revision of a report add up to the
counts that head it. -/
theorem line_counts_agree :
    (∀ p : PatchSet,
      p.insertions.toNat = capped (FileStat.total FileStat.insertions p.files) ∧
      p.deletions.toNat = capped (FileStat.total FileStat.deletions p.files) ∧
      p.lines.toNat = capped (FileStat.total FileStat.insertions p.files +
        FileStat.total FileStat.deletions p.files)) ∧
    (∀ (batch : List Change) (n : ChangeNumber) (entry : Contribution),
      (n, entry) ∈ Contribution.ofFactory .changeSize batch ↔
        ∃ c ∈ batch, ∃ p, c.currentPatchSet = some p ∧ n = c.id ∧
          entry = ⟨"change-size", none,
            [("lines", .ofUInt32 p.lines), ("size", .text (sizeBucket p.lines))]⟩) ∧
    (∀ p q : PatchSet, p.files.Perm q.files →
      p.insertions = q.insertions ∧ p.deletions = q.deletions ∧ p.lines = q.lines) ∧
    (∀ (p q : PatchSet) (f : FileStat), q.files.Perm (f :: p.files) →
      p.insertions ≤ q.insertions ∧ p.deletions ≤ q.deletions ∧ p.lines ≤ q.lines ∧
        sizeNames.idxOf (sizeBucket p.lines) ≤ sizeNames.idxOf (sizeBucket q.lines)) ∧
    ∀ (w : World) (labels : List Label) (s : Snapshot) (contributions : List Contribution)
      (options : OptionSet) (p : PatchSet), options.contains .skipDiffstat = false →
      (options.contains .currentRevision = true ∨ options.contains .allRevisions = true) →
      (options.contains .currentFiles = true ∨ options.contains .allFiles = true) →
      s.state.currentPatchSet = some p → (p.files.map FileStat.path).Nodup →
      ∃ (report : ChangeReport) (entries : List (String × RevisionReport)) (r : RevisionReport)
        (files : List (String × FileReport)),
        (reportSnapshot labels options s contributions).run w =
          (if .getAccount ∈ w.failing then .error (.ofStore .lockPoisoned) else .ok report, w) ∧
        report.currentRevision = some p.revision.hex ∧ report.revisions = some entries ∧
        (entries.map Prod.fst).Nodup ∧ (p.revision.hex, r) ∈ entries ∧ r.files = some files ∧
        report.insertions = some p.insertions ∧ report.deletions = some p.deletions ∧
        p.insertions.toNat = capped (FileReport.total FileReport.inserted files) ∧
        p.deletions.toNat = capped (FileReport.total FileReport.deleted files) := by
  refine ⟨fun p => ⟨p.toNat_insertions, p.toNat_deletions, p.toNat_lines⟩,
    fun batch n entry => mem_ofFactory_changeSize, fun p q => PatchSet.counts_perm,
    fun p q f added => ?_,
    fun w labels s contributions options p sized asked filed current paths => ?_⟩
  · obtain ⟨inserted, deleted, both⟩ := PatchSet.counts_le_of_added added
    exact ⟨inserted, deleted, both, sizeBucket_mono both⟩
  · have shows := showsRevisions_iff.2 asked
    have heads := sizedPatchSet_of_current current sized
    have listed : showsFiles options true = true := by
      simpa only [showsFiles, Bool.true_and, Bool.or_eq_true] using filed.symm
    refine ⟨w.report labels s contributions options, revisionsOf (w.shown options) options s.state,
      .of (w.shown options) options true p, fileReports p,
      run_reportSnapshot_eq w labels s contributions options, ?_, if_pos shows, nodup_byName,
      mem_revisionsOf_current current _ options, if_pos listed,
      congrArg (Option.map PatchSet.insertions) heads,
      congrArg (Option.map PatchSet.deletions) heads, ?_, ?_⟩
    · exact (if_pos shows).trans (congrArg (Option.map fun p => p.revision.hex) current)
    · rw [total_fileReports paths fun _ => rfl, p.toNat_insertions]
    · rw [total_fileReports paths fun _ => rfl, p.toNat_deletions]

/-- A patch set with one inserted line more than can be counted. -/
def crowded : PatchSet :=
  ⟨3, ⟨List.replicate 20 4, rfl⟩, ⟨1000⟩, 0, "Fix",
    [⟨"a", 4294967294, 3⟩, ⟨"b", 2, 4294967290⟩, ⟨"c", 0, 0⟩]⟩

def crowdedSnapshot : Snapshot :=
  { rebased with state := { rebased.state with patchSets := [trimming, crowded] } }

theorem crowded_counts_agree :
    crowded.insertions.toNat = 4294967295 ∧ crowded.deletions.toNat = 4294967293 ∧
    (⟨1⟩, ⟨"change-size", none, [("lines", .ofUInt32 crowded.lines), ("size", .text "XL")]⟩) ∈
      Contribution.ofFactory .changeSize [crowdedSnapshot.state] ∧
    { crowded with files := crowded.files.reverse }.lines = crowded.lines ∧
    { crowded with files := crowded.files.tail }.deletions ≤ crowded.deletions ∧
    ∃ (report : ChangeReport) (entries : List (String × RevisionReport)) (r : RevisionReport)
      (files : List (String × FileReport)),
      (reportSnapshot [] (.ofList [.currentRevision, .currentFiles]) crowdedSnapshot []).run
        ownerWorld = (.ok report, ownerWorld) ∧
      report.revisions = some entries ∧ (crowded.revision.hex, r) ∈ entries ∧
      r.files = some files ∧ report.insertions = some 4294967295 ∧
      capped (FileReport.total FileReport.inserted files) = 4294967295 := by
  obtain ⟨counted, told, anyOrder, added, reported⟩ := line_counts_agree
  obtain ⟨inserted, deleted, -⟩ := counted crowded
  have current : crowdedSnapshot.state.currentPatchSet = some crowded := by decide
  have large : sizeBucket crowded.lines = "XL" := by decide
  obtain ⟨report, entries, r, files, runs, -, shown, -, there, listed, heads, -, sum, -⟩ :=
    reported ownerWorld [] crowdedSnapshot []
      (.ofList [.currentRevision, .currentFiles]) crowded (by decide) (.inl (by decide))
      (.inl (by decide)) current (by decide)
  refine ⟨inserted, deleted, (told _ _ _).2 ⟨_, List.mem_singleton_self _, crowded, current, rfl,
    by rw [large]⟩, (anyOrder _ crowded (List.reverse_perm _)).2.2,
    (added _ crowded ⟨"a", 4294967294, 3⟩ (.refl _)).2.1, report, entries, r, files, runs, shown,
    there, listed, ?_, ?_⟩
  · exact heads.trans (congrArg some (UInt32.toNat_inj.1 inserted))
  · exact sum.symm.trans inserted

end CodeReview
