import CodeReview.Proofs.Change.Reading
import CodeReview.Proofs.Json.Containment
set_option autoImplicit false

/-!
What a report says, given how accounts are shown. Making a report reads nothing but accounts, and
the owner's in any case, so it ends in an error where accounts cannot be read and says just this
where they can.
-/
namespace CodeReview
open Act

/-- How a store shows an account, by its id alone if there is none. -/
def Store.summary (s : Store) (details : Bool) (id : AccountId) : AccountSummary :=
  match s.accounts.find? fun a => a.id = id with
  | some a => .ofAccount details a
  | none => .idOnly id

section
variable (shown : AccountId → AccountSummary)

def VoteReport.of (a : Approval) : VoteReport :=
  ⟨shown a.account, a.value, Calendar.timestamp a.granted⟩

def LabelReport.of (detailed : Bool) (c : Change) (l : Label) : LabelReport :=
  let summary := LabelSummary.ofVotes l (votesOn c l)
  ⟨summary.approved.map fun a => shown a.account, summary.rejected.map fun a => shown a.account,
    summary.recommended.map fun a => shown a.account, summary.disliked.map fun a => shown a.account,
    if detailed then some ((votesOn c l).map (VoteReport.of shown)) else none⟩

def MessageReport.of (m : ChangeMessage) : MessageReport :=
  ⟨m.id, m.author.map shown, Calendar.timestamp m.date, m.message, m.patchSet⟩

def RevisionReport.of (options : OptionSet) (current : Bool) (p : PatchSet) : RevisionReport :=
  ⟨p.number, Calendar.timestamp p.created, shown p.uploader,
    if showsCommit options current then some (.ofPatchSet p) else none,
    if showsFiles options current then some (fileReports p) else none⟩

def revisionsOf (options : OptionSet) (c : Change) : List (String × RevisionReport) :=
  Json.byName (fun p => p.revision.hex)
    (fun p => RevisionReport.of shown options (isCurrent c p) p) (shownPatchSets options c)

def labelsOf (options : OptionSet) (c : Change) (labels : List Label) :
    List (String × LabelReport) :=
  Json.byName Label.name (LabelReport.of shown (options.contains .detailedLabels) c) labels

def ChangeReport.of (labels : List Label) (options : OptionSet) (s : Snapshot)
    (contributions : List Contribution) : ChangeReport where
  id := s.state.triplet
  project := s.state.project
  branch := s.state.branch
  topic := s.state.topic
  hashtags := s.state.hashtags
  key := s.state.key
  subject := s.state.subject
  status := s.state.status
  created := Calendar.timestamp s.state.created
  updated := Calendar.timestamp s.state.updated
  submittable :=
    if options.contains .submittable then some (isSubmittable labels s.state) else none
  insertions := (sizedPatchSet options s.state).map PatchSet.insertions
  deletions := (sizedPatchSet options s.state).map PatchSet.deletions
  number := s.state.id
  owner := shown s.state.owner
  metaId := s.metaId.hex
  labels := if showsLabels options then some (labelsOf shown options s.state labels) else none
  messages :=
    if options.contains .messages then some (s.state.messages.map (MessageReport.of shown))
    else none
  currentRevision :=
    if showsRevisions options then s.state.currentPatchSet.map fun p => p.revision.hex else none
  revisions := if showsRevisions options then some (revisionsOf shown options s.state) else none
  contributions := if contributions.isEmpty then none else some contributions

end

section
variable {w : World} (options : OptionSet) (c : Change)

/-- How a report shows accounts under its options. -/
def World.shown (w : World) (options : OptionSet) : AccountId → AccountSummary :=
  w.store.summary (options.contains .detailedAccounts)

theorem run_optional {α β : Type} {p : Prop} [Decidable p] {x : Act ApiError α} {a : α}
    (h : x.run w = (.ok a, w)) (f : Option α → Act ApiError β) :
    (if p then some <$> x >>= f else pure none >>= f).run w =
      (f (if p then some a else none)).run w := by
  have mapped : (some <$> x).run w = (.ok (some a), w) := run_bind_of_ok h
  split
  · exact run_bind_of_ok mapped
  · exact run_bind_of_ok (run_pure none w)

theorem run_summaryOf (hf : .getAccount ∉ w.failing) (details : Bool) (id : AccountId) :
    (summaryOf details id).run w = (.ok (w.store.summary details id), w) := by
  have found : (findAccount id).run w = (.ok (w.store.accounts.find? fun a => a.id = id), w) := by
    rw [run_findAccount, if_neg hf]
  rw [summaryOf, run_bind_of_ok found, Store.summary]
  cases w.store.accounts.find? fun a => a.id = id <;> rfl

theorem run_voter (hf : .getAccount ∉ w.failing) (details : Bool) (vote : Option Approval) :
    (voter details vote).run w =
      (.ok (vote.map fun a => w.store.summary details a.account), w) := by
  cases vote with
  | none => rfl
  | some a => exact run_bind_of_ok (run_summaryOf hf details a.account)

theorem run_voteReports (hf : .getAccount ∉ w.failing) (details : Bool) (votes : List Approval) :
    (voteReports details votes).run w =
      (.ok (votes.map (VoteReport.of (w.store.summary details))), w) := by
  induction votes with
  | nil => rfl
  | cons a as ih =>
    rw [voteReports, run_bind_of_ok (run_summaryOf hf details a.account), run_bind_of_ok ih]
    rfl

theorem run_labelReport (hf : .getAccount ∉ w.failing) (l : Label) :
    (labelReport options c l).run w =
      (.ok (.of (w.shown options) (options.contains .detailedLabels) c l), w) := by
  unfold labelReport
  dsimp only
  rw [run_bind_of_ok (run_voter hf _ _), run_bind_of_ok (run_voter hf _ _),
    run_bind_of_ok (run_voter hf _ _), run_bind_of_ok (run_voter hf _ _),
    run_optional (run_voteReports hf _ _)]
  rfl

theorem run_labelReports (hf : .getAccount ∉ w.failing) (found : List (String × LabelReport))
    (ls : List Label) :
    (labelReports options c found ls).run w =
      (.ok (ls.foldl (fun found l => Json.setEntry l.name
        (.of (w.shown options) (options.contains .detailedLabels) c l) found) found), w) := by
  induction ls generalizing found with
  | nil => rfl
  | cons l ls ih =>
    rw [labelReports, run_bind_of_ok (run_labelReport options c hf l), ih]
    rfl

theorem run_messageReport (hf : .getAccount ∉ w.failing) (details : Bool) (m : ChangeMessage) :
    (messageReport details m).run w = (.ok (.of (w.store.summary details) m), w) := by
  unfold messageReport MessageReport.of
  cases m.author with
  | none => rfl
  | some a =>
    have author : (some <$> summaryOf details a).run w =
        (.ok (some (w.store.summary details a)), w) := run_bind_of_ok (run_summaryOf hf details a)
    dsimp only
    rw [run_bind_of_ok author]
    rfl

theorem run_messageReports (hf : .getAccount ∉ w.failing) (details : Bool)
    (ms : List ChangeMessage) :
    (messageReports details ms).run w =
      (.ok (ms.map (MessageReport.of (w.store.summary details))), w) := by
  induction ms with
  | nil => rfl
  | cons m ms ih =>
    rw [messageReports, run_bind_of_ok (run_messageReport hf details m), run_bind_of_ok ih]
    rfl

theorem run_revisionReport (hf : .getAccount ∉ w.failing) (current : Bool) (p : PatchSet) :
    (revisionReport options current p).run w =
      (.ok (.of (w.shown options) options current p), w) := by
  rw [revisionReport, run_bind_of_ok (run_summaryOf hf _ _)]
  rfl

theorem run_revisionReports (hf : .getAccount ∉ w.failing)
    (found : List (String × RevisionReport)) (ps : List PatchSet) :
    (revisionReports options c found ps).run w =
      (.ok (ps.foldl (fun found p => Json.setEntry p.revision.hex
        (.of (w.shown options) options (isCurrent c p) p) found) found), w) := by
  induction ps generalizing found with
  | nil => rfl
  | cons p ps ih =>
    rw [revisionReports, run_bind_of_ok (run_revisionReport options hf _ p), ih]
    rfl

end

/-- The action changes nothing, and its only error is that accounts cannot be read. -/
def Act.ReadsAccounts {α : Type} (x : Act ApiError α) : Prop :=
  ∀ w, (∃ a, x.run w = (.ok a, w)) ∨ x.run w = (.error (.ofStore .lockPoisoned), w)

namespace Act.ReadsAccounts
variable {α β : Type} {w : World}

theorem pure (a : α) : ReadsAccounts (Pure.pure a : Act ApiError α) :=
  fun _ => .inl ⟨a, rfl⟩

theorem bind {x : Act ApiError α} {f : α → Act ApiError β} (hx : ReadsAccounts x)
    (hf : ∀ a, ReadsAccounts (f a)) : ReadsAccounts (x >>= f) := by
  intro w
  rcases hx w with ⟨a, ok⟩ | failed
  · rw [run_bind_of_ok ok]
    exact hf a w
  · right
    rw [run_bind, failed]

theorem optional {p : Prop} [Decidable p] {x : Act ApiError α} {f : Option α → Act ApiError β}
    (hx : ReadsAccounts x) (hf : ∀ o, ReadsAccounts (f o)) :
    ReadsAccounts (if p then some <$> x >>= f else Pure.pure none >>= f) := by
  split
  · exact (hx.bind fun a => pure (some a)).bind hf
  · exact (pure none).bind hf

theorem bind_fails {x : Act ApiError α} {f : α → Act ApiError β} (hx : ReadsAccounts x)
    (hf : ∀ a, (f a).run w = (.error (.ofStore .lockPoisoned), w)) :
    (x >>= f).run w = (.error (.ofStore .lockPoisoned), w) := by
  rcases hx w with ⟨a, ok⟩ | failed
  · rw [run_bind_of_ok ok, hf a]
  · rw [run_bind, failed]

theorem optional_fails {p : Prop} [Decidable p] {x : Act ApiError α}
    {f : Option α → Act ApiError β} (hx : ReadsAccounts x)
    (hf : ∀ o, (f o).run w = (.error (.ofStore .lockPoisoned), w)) :
    (if p then some <$> x >>= f else Pure.pure none >>= f).run w =
      (.error (.ofStore .lockPoisoned), w) := by
  split
  · exact (hx.bind fun a => pure (some a)).bind_fails hf
  · exact (pure none).bind_fails hf

end Act.ReadsAccounts

theorem run_summaryOf_fails {w : World} (hf : .getAccount ∈ w.failing) (details : Bool)
    (id : AccountId) :
    (summaryOf details id).run w = (.error (.ofStore .lockPoisoned), w) := by
  rw [summaryOf, run_bind, run_findAccount, if_pos hf]

theorem readsAccounts_summaryOf (details : Bool) (id : AccountId) :
    ReadsAccounts (summaryOf details id) := by
  intro w
  by_cases hf : .getAccount ∈ w.failing
  · exact .inr (run_summaryOf_fails hf details id)
  · exact .inl ⟨_, run_summaryOf hf details id⟩

theorem readsAccounts_voter (details : Bool) (vote : Option Approval) :
    ReadsAccounts (voter details vote) := by
  cases vote with
  | none => exact .pure _
  | some a => exact (readsAccounts_summaryOf _ _).bind fun _ => .pure _

theorem readsAccounts_voteReports (details : Bool) (votes : List Approval) :
    ReadsAccounts (voteReports details votes) := by
  induction votes with
  | nil => exact .pure _
  | cons a as ih => exact (readsAccounts_summaryOf _ _).bind fun _ => ih.bind fun _ => .pure _

theorem readsAccounts_labelReport (options : OptionSet) (c : Change) (l : Label) :
    ReadsAccounts (labelReport options c l) := by
  refine (readsAccounts_voter _ _).bind fun _ => (readsAccounts_voter _ _).bind fun _ =>
    (readsAccounts_voter _ _).bind fun _ => (readsAccounts_voter _ _).bind fun _ => ?_
  exact (readsAccounts_voteReports _ _).optional fun _ => .pure _

theorem readsAccounts_labelReports (options : OptionSet) (c : Change)
    (found : List (String × LabelReport)) (ls : List Label) :
    ReadsAccounts (labelReports options c found ls) := by
  induction ls generalizing found with
  | nil => exact .pure _
  | cons l ls ih => exact (readsAccounts_labelReport _ _ _).bind fun _ => ih _

theorem readsAccounts_messageReports (details : Bool) (ms : List ChangeMessage) :
    ReadsAccounts (messageReports details ms) := by
  induction ms with
  | nil => exact .pure _
  | cons m ms ih =>
    have first : ReadsAccounts (messageReport details m) := by
      unfold messageReport
      cases m.author with
      | none => exact (ReadsAccounts.pure _).bind fun _ => .pure _
      | some a =>
        exact ((readsAccounts_summaryOf details a).bind fun s => .pure (some s)).bind fun _ =>
          .pure _
    exact first.bind fun _ => ih.bind fun _ => .pure _

theorem readsAccounts_revisionReports (options : OptionSet) (c : Change)
    (found : List (String × RevisionReport)) (ps : List PatchSet) :
    ReadsAccounts (revisionReports options c found ps) := by
  induction ps generalizing found with
  | nil => exact .pure _
  | cons p ps ih =>
    exact ((readsAccounts_summaryOf _ _).bind fun _ => .pure _).bind fun _ => ih _

theorem run_reportSnapshot_fails {w : World} (hf : .getAccount ∈ w.failing) (labels : List Label)
    (options : OptionSet) (s : Snapshot) (contributions : List Contribution) :
    (reportSnapshot labels options s contributions).run w =
      (.error (.ofStore .lockPoisoned), w) := by
  refine (readsAccounts_labelReports _ _ _ _).optional_fails fun _ => ?_
  refine (readsAccounts_messageReports _ _).optional_fails fun _ => ?_
  refine (readsAccounts_revisionReports _ _ _ _).optional_fails fun _ => ?_
  -- The owner is shown whatever the options say.
  rw [run_bind, run_summaryOf_fails hf]

theorem run_reportSnapshot {w : World} (hf : .getAccount ∉ w.failing) (labels : List Label)
    (options : OptionSet) (s : Snapshot) (contributions : List Contribution) :
    (reportSnapshot labels options s contributions).run w =
      (.ok (.of (w.shown options) labels options s contributions), w) := by
  unfold reportSnapshot
  dsimp only
  rw [run_optional (run_labelReports options s.state hf [] labels),
    run_optional (run_messageReports hf _ _),
    run_optional (run_revisionReports options s.state hf [] _),
    run_bind_of_ok (run_summaryOf hf _ _)]
  rfl

end CodeReview
