import CodeReview.Change.Lookup
import CodeReview.Change.Render
import CodeReview.Proofs.Account.Lookup
set_option autoImplicit false

/-!
Finding a change and reporting it changes nothing and never looks at groups.
-/
namespace CodeReview
open Act

theorem ungrouped_findChange (n : ChangeNumber) : Ungrouped (findChange n) :=
  (ungrouped_getChange n none).outcome.bind fun r => by
    split
    · exact .pure _
    · exact .pure _
    · exact .fail _

theorem ungrouped_acceptedChanges (accept : Change → Bool) (ns : List ChangeNumber) :
    Ungrouped (acceptedChanges accept ns) := by
  induction ns with
  | nil => exact .pure _
  | cons n ns ih =>
    exact ((ungrouped_getChange n none).mapError _).bind fun _ => ih.bind fun _ => .pure _

theorem ungrouped_changeByKey (key : String) (accept : Change → Bool) :
    Ungrouped (changeByKey key accept) :=
  .ite (.pure _) (((ungrouped_findByKey key).mapError _).bind fun found =>
    (ungrouped_acceptedChanges accept found).bind fun accepted => by
      split
      · exact .pure _
      · exact .pure _)

theorem ungrouped_changeOfParts (parts : List String) : Ungrouped (changeOfParts parts) := by
  unfold changeOfParts
  split
  · split
    · exact (ungrouped_findChange _).bind fun _ => .pure _
    · exact ungrouped_changeByKey _ _
  · split
    · exact (ungrouped_findChange _).bind fun _ => .pure _
    · exact .pure _
  · exact ungrouped_changeByKey _ _
  · exact .pure _

theorem ungrouped_parseChange (id : String) : Ungrouped (parseChange id) := by
  refine (ungrouped_changeOfParts (parts id)).bind fun found => ?_
  cases found with
  | some n => exact .pure _
  | none => exact .fail _

theorem ungrouped_voter (details : Bool) (vote : Option Approval) :
    Ungrouped (voter details vote) := by
  cases vote with
  | none => exact .pure _
  | some a => exact (ungrouped_summaryOf _ _).bind fun _ => .pure _

theorem ungrouped_voteReports (details : Bool) (votes : List Approval) :
    Ungrouped (voteReports details votes) := by
  induction votes with
  | nil => exact .pure _
  | cons a as ih => exact (ungrouped_summaryOf _ _).bind fun _ => ih.bind fun _ => .pure _

theorem ungrouped_labelReport (options : OptionSet) (c : Change) (l : Label) :
    Ungrouped (labelReport options c l) := by
  refine (ungrouped_voter _ _).bind fun _ => (ungrouped_voter _ _).bind fun _ =>
    (ungrouped_voter _ _).bind fun _ => (ungrouped_voter _ _).bind fun _ => ?_
  exact (ungrouped_voteReports _ _).optional fun _ => .pure _

theorem ungrouped_labelReports (options : OptionSet) (c : Change)
    (found : List (String × LabelReport)) (ls : List Label) :
    Ungrouped (labelReports options c found ls) := by
  induction ls generalizing found with
  | nil => exact .pure _
  | cons l ls ih => exact (ungrouped_labelReport _ _ _).bind fun _ => ih _

theorem ungrouped_messageReport (details : Bool) (m : ChangeMessage) :
    Ungrouped (messageReport details m) := by
  unfold messageReport
  cases m.author with
  | none => exact (Ungrouped.pure _).bind fun _ => .pure _
  | some a => exact ((ungrouped_summaryOf _ _).map _).bind fun _ => .pure _

theorem ungrouped_messageReports (details : Bool) (ms : List ChangeMessage) :
    Ungrouped (messageReports details ms) := by
  induction ms with
  | nil => exact .pure _
  | cons m ms ih => exact (ungrouped_messageReport _ _).bind fun _ => ih.bind fun _ => .pure _

theorem ungrouped_revisionReports (options : OptionSet) (c : Change)
    (found : List (String × RevisionReport)) (ps : List PatchSet) :
    Ungrouped (revisionReports options c found ps) := by
  induction ps generalizing found with
  | nil => exact .pure _
  | cons p ps ih =>
    exact ((ungrouped_summaryOf _ _).bind fun _ => .pure _).bind fun _ => ih _

theorem ungrouped_reportSnapshot (labels : List Label) (options : OptionSet) (s : Snapshot)
    (contributions : List Contribution) :
    Ungrouped (reportSnapshot labels options s contributions) := by
  refine (ungrouped_labelReports _ _ _ _).optional fun _ => ?_
  refine (ungrouped_messageReports _ _).optional fun _ => ?_
  refine (ungrouped_revisionReports _ _ _ _).optional fun _ => ?_
  exact (ungrouped_summaryOf _ _).bind fun _ => .pure _

theorem ungrouped_reportChange (labels : List Label) (factories : List Factory)
    (options : OptionSet) (n : ChangeNumber) (pin : Option ObjectId) :
    Ungrouped (reportChange labels factories options n pin) :=
  ((ungrouped_getChange n pin).mapError _).bind fun _ => ungrouped_reportSnapshot _ _ _ _

end CodeReview
