import CodeReview.Proofs.Change.Options
set_option autoImplicit false

/-!
What a report tells of the votes. The entry of a label depends on the votes on it for the current
patch set and on nothing else of the change, and a change can be submitted exactly when it is new
and every entry has an approval and no rejection.
-/
namespace CodeReview
open Act Json

/-- What is chosen from a list, one item against the choice from the rest, comes last of all items
in an order by which each choice is made. -/
theorem chosen_cases {α : Type} (choose : List α → Option α) (le : α → α → Prop)
    (refl : ∀ a, le a a) (trans : ∀ a b c, le a b → le b c → le a c) (empty : choose [] = none)
    (single : ∀ a as, choose as = none → choose (a :: as) = some a)
    (either : ∀ a as b, choose as = some b →
      choose (a :: as) = some b ∧ le a b ∨ choose (a :: as) = some a ∧ le b a) (items : List α) :
    choose items = none ∧ items = [] ∨
      ∃ a ∈ items, choose items = some a ∧ ∀ b ∈ items, le b a := by
  induction items with
  | nil => exact .inl ⟨empty, rfl⟩
  | cons c items ih =>
    right
    rcases ih with ⟨nothing, rfl⟩ | ⟨a, there, chosen, last⟩
    · exact ⟨c, List.mem_singleton.2 rfl, single c [] nothing, by simpa using refl c⟩
    · rcases either c items a chosen with ⟨kept, before⟩ | ⟨taken, after⟩
      · exact ⟨a, List.mem_cons_of_mem c there, kept, List.forall_mem_cons.2 ⟨before, last⟩⟩
      · refine ⟨c, List.mem_cons_self, taken, List.forall_mem_cons.2 ⟨refl c, fun b inside => ?_⟩⟩
        exact trans b a c (last b inside) after

theorem greatestVote_cases (votes : List Approval) :
    greatestVote votes = none ∧ votes = [] ∨
      ∃ a ∈ votes, greatestVote votes = some a ∧ ∀ b ∈ votes, b.value ≤ a.value := by
  refine chosen_cases greatestVote (fun a b => a.value ≤ b.value) (fun _ => Int16.le_refl _)
    (fun _ _ _ => Int16.le_trans) rfl (fun a as rest => ?_) (fun a as b rest => ?_) votes
  · rw [greatestVote, rest]
  · rw [greatestVote, rest]
    dsimp only
    split
    · next less => exact .inl ⟨rfl, less⟩
    · next more => exact .inr ⟨rfl, (Int16.le_total a.value b.value).resolve_left more⟩

theorem leastVote_cases (votes : List Approval) :
    leastVote votes = none ∧ votes = [] ∨
      ∃ a ∈ votes, leastVote votes = some a ∧ ∀ b ∈ votes, a.value ≤ b.value := by
  refine chosen_cases leastVote (fun a b => b.value ≤ a.value) (fun _ => Int16.le_refl _)
    (fun _ _ _ more most => Int16.le_trans most more) rfl (fun a as rest => ?_)
    (fun a as b rest => ?_) votes
  · rw [leastVote, rest]
  · rw [leastVote, rest]
    dsimp only
    split
    · next less => exact .inl ⟨rfl, Int16.le_of_lt less⟩
    · next more => exact .inr ⟨rfl, Int16.not_lt.1 more⟩

/-- The entry of a label as its votes alone make it. -/
def LabelReport.ofVotes (shown : AccountId → AccountSummary) (detailed : Bool) (l : Label)
    (votes : List Approval) : LabelReport :=
  let summary := LabelSummary.ofVotes l votes
  ⟨summary.approved.map fun a => shown a.account, summary.rejected.map fun a => shown a.account,
    summary.recommended.map fun a => shown a.account, summary.disliked.map fun a => shown a.account,
    if detailed then some (votes.map (VoteReport.of shown)) else none⟩

/-- An account is named exactly if some vote is of the kind, and it then gave one of the kind that
comes last of them in the order. -/
def NamesLast (account : Option AccountSummary) (votes : List Approval) (kind : Approval → Prop)
    (le : Approval → Approval → Prop) : Prop :=
  ((∃ s, account = some s) ↔ ∃ a ∈ votes, kind a) ∧
    ∀ s, account = some s →
      ∃ a ∈ votes, a.account = s.id ∧ kind a ∧ ∀ b ∈ votes, kind b → le b a

/-- The entry names the first voter at either end of the range and, of the votes inside the range,
one who gave the greatest of the positive ones and one who gave the least of the negative ones. -/
structure LabelReport.Tells (r : LabelReport) (l : Label) (votes : List Approval) : Prop where
  approved : r.approved.map AccountSummary.id =
    (votes.find? fun a => a.value = l.max).map Approval.account
  rejected : r.rejected.map AccountSummary.id =
    (votes.find? fun a => a.value = l.min).map Approval.account
  recommended : NamesLast r.recommended votes (fun a => 0 < a.value ∧ a.value < l.max)
    fun a b => a.value ≤ b.value
  disliked : NamesLast r.disliked votes (fun a => l.min < a.value ∧ a.value < 0)
    fun a b => b.value ≤ a.value

theorem Store.id_summary (s : Store) (details : Bool) (id : AccountId) :
    (s.summary details id).id = id := by
  rw [summary]
  cases found : s.accounts.find? fun a => a.id = id with
  | none => rfl
  | some a =>
    have same : a.id = id := by simpa using List.find?_some found
    cases details <;> exact same

section
variable {l : Label} {votes : List Approval}

theorem approved_ofVotes (positive : 0 < l.max) :
    (LabelSummary.ofVotes l votes).approved = votes.find? fun a => a.value = l.max := by
  refine congrArg (votes.find? ·) (funext fun a => ?_)
  by_cases top : a.value = l.max <;> simp [top, positive]

theorem rejected_ofVotes (negative : l.min < 0) :
    (LabelSummary.ofVotes l votes).rejected = votes.find? fun a => a.value = l.min := by
  refine congrArg (votes.find? ·) (funext fun a => ?_)
  by_cases bottom : a.value = l.min <;> simp [bottom, negative]

theorem namesLast_chosen {shown : AccountId → AccountSummary} (named : ∀ id, (shown id).id = id)
    {choose : List Approval → Option Approval} {le : Approval → Approval → Prop}
    (cases : ∀ items, choose items = none ∧ items = [] ∨
      ∃ a ∈ items, choose items = some a ∧ ∀ b ∈ items, le b a)
    {p : Approval → Bool} {kind : Approval → Prop} (same : ∀ a, p a = true ↔ kind a) :
    NamesLast ((choose (votes.filter p)).map fun a => shown a.account) votes kind le := by
  rcases cases (votes.filter p) with ⟨nothing, outside⟩ | ⟨a, there, chosen, last⟩
  · rw [nothing]
    refine ⟨⟨nofun, ?_⟩, nofun⟩
    rintro ⟨a, there, within⟩
    exact absurd ((same a).2 within) (List.filter_eq_nil_iff.1 outside a there)
  · obtain ⟨there, kept⟩ := List.mem_filter.1 there
    have within := (same a).1 kept
    rw [chosen]
    refine ⟨⟨fun _ => ⟨a, there, within⟩, fun _ => ⟨_, rfl⟩⟩, ?_⟩
    rintro s ⟨⟩
    exact ⟨a, there, (named a.account).symm, within, fun b inside also =>
      last b (List.mem_filter.2 ⟨inside, (same b).2 also⟩)⟩

theorem tells_ofVotes {shown : AccountId → AccountSummary} (named : ∀ id, (shown id).id = id)
    (detailed : Bool) (negative : l.min < 0) (positive : 0 < l.max) :
    (LabelReport.ofVotes shown detailed l votes).Tells l votes where
  approved := by simp [LabelReport.ofVotes, approved_ofVotes positive, named, Function.comp_def]
  rejected := by simp [LabelReport.ofVotes, rejected_ofVotes negative, named, Function.comp_def]
  recommended := namesLast_chosen named greatestVote_cases fun a => by simp
  disliked := namesLast_chosen named leastVote_cases fun a => by simp [and_comm]

/-- A vote decides about submitting as it decides about the entry. -/
theorem isSubmittable_iff {labels : List Label} (ranges : ∀ l ∈ labels, l.min < 0 ∧ 0 < l.max)
    (shown : AccountId → AccountSummary) (detailed : Bool) (c : Change) :
    isSubmittable labels c = true ↔ c.status = .new ∧ ∀ l ∈ labels,
      (∃ s, (LabelReport.ofVotes shown detailed l (votesOn c l)).approved = some s) ∧
      (LabelReport.ofVotes shown detailed l (votesOn c l)).rejected = none := by
  rw [isSubmittable, Bool.and_eq_true, decide_eq_true_iff, List.all_eq_true]
  refine and_congr_right fun _ => forall₂_congr fun l there => ?_
  obtain ⟨negative, positive⟩ := ranges l there
  simp only [LabelReport.ofVotes, approved_ofVotes positive, rejected_ofVotes negative]
  simp [← Option.isSome_iff_exists]

end

/-- A report that lists labels has one entry for each, which the votes on the label for the current
patch set make and which tells of them, and the change can be submitted exactly when it is new and
every entry has an approval and no rejection. -/
theorem submittable_as_labels_tell (w : World) {labels : List Label} {options : OptionSet}
    (distinct : (labels.map Label.name).Nodup) (ranges : ∀ l ∈ labels, l.min < 0 ∧ 0 < l.max)
    (listed : options.contains .labels = true ∨ options.contains .detailedLabels = true)
    (asked : options.contains .submittable = true) :
    ∃ (report : Snapshot → List Contribution → ChangeReport)
      (entry : Label → List Approval → LabelReport),
      (∀ s contributions, (reportSnapshot labels options s contributions).run w =
        (if .getAccount ∈ w.failing then .error (.ofStore .lockPoisoned)
          else .ok (report s contributions), w)) ∧
      (∀ s contributions, (report s contributions).labels =
        some (labels.map fun l => (l.name, entry l (votesOn s.state l)))) ∧
      (∀ l ∈ labels, ∀ votes, (entry l votes).Tells l votes) ∧
      ∀ s contributions entries, (report s contributions).labels = some entries →
        ∃ flag, (report s contributions).submittable = some flag ∧
          (flag = true ↔ s.state.status = .new ∧
            ∀ e ∈ entries, (∃ a, e.2.approved = some a) ∧ e.2.rejected = none) := by
  have shows : showsLabels options = true := by rwa [showsLabels, Bool.or_eq_true]
  have sections (s : Snapshot) (contributions : List Contribution) :
      (w.report labels s contributions options).labels =
        some (labels.map fun l => (l.name, LabelReport.ofVotes (w.shown options)
          (options.contains .detailedLabels) l (votesOn s.state l))) := by
    rw [World.report, ChangeReport.of]
    dsimp only
    rw [if_pos shows, labelsOf, byName_of_nodup distinct]
    rfl
  refine ⟨fun s contributions => w.report labels s contributions options,
    .ofVotes (w.shown options) (options.contains .detailedLabels),
    fun s contributions => run_reportSnapshot_eq w labels s contributions options, sections,
    fun l there votes => ?_, fun s contributions entries given => ?_⟩
  · obtain ⟨negative, positive⟩ := ranges l there
    exact tells_ofVotes (w.store.id_summary _) _ negative positive
  · obtain rfl := Option.some.inj ((sections s contributions).symm.trans given)
    refine ⟨isSubmittable labels s.state, if_pos asked, ?_⟩
    rw [isSubmittable_iff ranges (w.shown options) (options.contains .detailedLabels),
      List.forall_mem_map]

/-- The change with votes on two labels, and a rejection of a patch set that is not current. -/
def reviewed : Snapshot :=
  { rebased with state := { rebased.state with
    approvals := [⟨"Code-Review", ⟨1000⟩, 2, 2, 0⟩, ⟨"Verified", ⟨1001⟩, -1, 1, 0⟩,
      ⟨"Code-Review", ⟨1001⟩, -1, 2, 0⟩, ⟨"Verified", ⟨1001⟩, 1, 2, 0⟩] } }

/-- An approval on one label does not do for the other. -/
theorem rebased_submittable :
    ∃ few both : ChangeReport,
      (reportSnapshot Label.standard (.ofList [.labels, .submittable]) rebased []).run
        ownerWorld = (.ok few, ownerWorld) ∧ few.submittable = some false ∧
      (reportSnapshot Label.standard (.ofList [.labels, .submittable]) reviewed []).run
        ownerWorld = (.ok both, ownerWorld) ∧ both.submittable = some true := by
  obtain ⟨report, entry, runs, sections, tells, agrees⟩ := @submittable_as_labels_tell ownerWorld
    Label.standard (.ofList [.labels, .submittable]) (by decide) (by decide)
    (.inl (by decide)) (by decide)
  obtain ⟨flag, given, iff⟩ := agrees rebased [] _ (sections rebased [])
  obtain ⟨flag', given', iff'⟩ := agrees reviewed [] _ (sections reviewed [])
  have review : (⟨"Code-Review", -2, 2⟩ : Label) ∈ Label.standard := by decide
  have verified : (⟨"Verified", -1, 1⟩ : Label) ∈ Label.standard := by decide
  refine ⟨report rebased [], report reviewed [], runs rebased [], ?_, runs reviewed [], ?_⟩
  · have unvoted := (tells _ verified (votesOn rebased.state ⟨"Verified", -1, 1⟩)).approved
    have without : flag ≠ true := by
      intro set
      obtain ⟨a, approved⟩ := ((iff.1 set).2 _ (List.mem_map_of_mem verified)).1
      rw [approved] at unvoted
      cases unvoted
    rw [given, Bool.eq_false_iff.2 without]
  · have decided : ∀ l ∈ Label.standard,
        (∃ a, ((votesOn reviewed.state l).find? fun v => v.value = l.max) = some a) ∧
        ((votesOn reviewed.state l).find? fun v => v.value = l.min) = none :=
      List.forall_mem_cons.2 ⟨⟨⟨_, rfl⟩, rfl⟩, List.forall_mem_singleton.2 ⟨⟨_, rfl⟩, rfl⟩⟩
    rw [given', iff'.2 ⟨rfl, List.forall_mem_map.2 fun l there => ?_⟩]
    have told := tells l there (votesOn reviewed.state l)
    obtain ⟨⟨a, top⟩, bottom⟩ := decided l there
    have named := told.approved
    have unnamed := told.rejected
    rw [top] at named
    rw [bottom] at unnamed
    obtain ⟨s, approved, -⟩ := Option.map_eq_some_iff.1 named
    exact ⟨⟨s, approved⟩, Option.map_eq_none_iff.1 unnamed⟩

end CodeReview
