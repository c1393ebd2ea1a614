import CodeReview.Calendar
import CodeReview.Change.Report
import CodeReview.Label
import CodeReview.OutputOption
set_option autoImplicit false

/-!
Making the report of a snapshot. The options decide which sections are there:

* `LABELS` and `DETAILED_LABELS`: the votes on each label, in short or one by one;
* `CURRENT_REVISION` and `ALL_REVISIONS`: the patch sets in order of their numbers, with commits
  and files by `CURRENT_COMMIT`, `ALL_COMMITS`, `CURRENT_FILES` and `ALL_FILES`;
* `MESSAGES`, `SUBMITTABLE`, `DETAILED_ACCOUNTS` and `SKIP_DIFFSTAT`.

Every other option is accepted and changes nothing.
-/
namespace CodeReview

def votesOn (c : Change) (l : Label) : List Approval :=
  c.currentApprovals.filter fun a => a.label = l.name

/-- A vote of the greatest value, the last one if there are several. -/
def greatestVote : List Approval → Option Approval
  | [] => none
  | a :: as =>
    match greatestVote as with
    | none => some a
    | some b => if a.value ≤ b.value then some b else some a

/-- A vote of the least value, the first one if there are several. -/
def leastVote : List Approval → Option Approval
  | [] => none
  | a :: as =>
    match leastVote as with
    | none => some a
    | some b => if b.value < a.value then some b else some a

structure LabelSummary where
  approved : Option Approval
  rejected : Option Approval
  recommended : Option Approval
  disliked : Option Approval
  deriving DecidableEq, Repr

def LabelSummary.ofVotes (l : Label) (votes : List Approval) : LabelSummary where
  approved := votes.find? fun a => a.value = l.max && 0 < a.value
  rejected := votes.find? fun a => a.value = l.min && a.value < 0
  recommended := greatestVote (votes.filter fun a => 0 < a.value && a.value < l.max)
  disliked := leastVote (votes.filter fun a => a.value < 0 && l.min < a.value)

/-- A change can be submitted when it is new and every label has a greatest and no least vote. -/
def isSubmittable (labels : List Label) (c : Change) : Bool :=
  c.status = .new && labels.all fun l =>
    ((votesOn c l).any fun a => a.value = l.max) && !(votesOn c l).any fun a => a.value = l.min

def voter (details : Bool) : Option Approval → Act ApiError (Option AccountSummary)
  | none => return none
  | some a => do return some (← summaryOf details a.account)

def voteReports (details : Bool) : List Approval → Act ApiError (List VoteReport)
  | [] => return []
  | a :: as => do
    let s ← summaryOf details a.account
    let rest ← voteReports details as
    return ⟨s, a.value, Calendar.timestamp a.granted⟩ :: rest

def labelReport (options : OptionSet) (c : Change) (l : Label) : Act ApiError LabelReport := do
  let details := options.contains .detailedAccounts
  let votes := votesOn c l
  let summary := LabelSummary.ofVotes l votes
  let approved ← voter details summary.approved
  let rejected ← voter details summary.rejected
  let recommended ← voter details summary.recommended
  let disliked ← voter details summary.disliked
  let all ← if options.contains .detailedLabels then some <$> voteReports details votes
    else pure none
  return ⟨approved, rejected, recommended, disliked, all⟩

/-- The reports of the labels by name; a repeated name keeps the last report. -/
def labelReports (options : OptionSet) (c : Change) (found : List (String × LabelReport)) :
    List Label → Act ApiError (List (String × LabelReport))
  | [] => return found
  | l :: ls => do
    let r ← labelReport options c l
    labelReports options c (Json.setEntry l.name r found) ls

def messageReport (details : Bool) (m : ChangeMessage) : Act ApiError MessageReport := do
  let author ← match m.author with
    | none => pure none
    | some a => some <$> summaryOf details a
  return ⟨m.id, author, Calendar.timestamp m.date, m.message, m.patchSet⟩

def messageReports (details : Bool) : List ChangeMessage → Act ApiError (List MessageReport)
  | [] => return []
  | m :: ms => do
    let r ← messageReport details m
    let rest ← messageReports details ms
    return r :: rest

def insertPatchSet (p : PatchSet) : List PatchSet → List PatchSet
  | [] => [p]
  | q :: qs => if p.number ≤ q.number then p :: q :: qs else q :: insertPatchSet p qs

/-- The patch sets in ascending order of their numbers, equal numbers in their order. -/
def sortPatchSets (ps : List PatchSet) : List PatchSet :=
  ps.foldr insertPatchSet []

def nonzero (n : UInt32) : Option UInt32 :=
  if 0 < n then some n else none

def FileReport.ofStat (f : FileStat) : FileReport :=
  ⟨nonzero f.insertions, nonzero f.deletions⟩

/-- The files of a patch set by path; a repeated path keeps the last counts. -/
def fileReports (p : PatchSet) : List (String × FileReport) :=
  p.files.foldl (fun found f => Json.setEntry f.path (.ofStat f) found) []

def CommitReport.ofPatchSet (p : PatchSet) : CommitReport :=
  ⟨p.subject, p.commitMessage⟩

def showsCommit (options : OptionSet) (current : Bool) : Bool :=
  options.contains .allCommits || (current && options.contains .currentCommit)

def showsFiles (options : OptionSet) (current : Bool) : Bool :=
  options.contains .allFiles || (current && options.contains .currentFiles)

def revisionReport (options : OptionSet) (current : Bool) (p : PatchSet) :
    Act ApiError RevisionReport := do
  let uploader ← summaryOf (options.contains .detailedAccounts) p.uploader
  return ⟨p.number, Calendar.timestamp p.created, uploader,
    if showsCommit options current then some (.ofPatchSet p) else none,
    if showsFiles options current then some (fileReports p) else none⟩

def isCurrent (c : Change) (p : PatchSet) : Bool :=
  some p.number = c.currentPatchSet.map PatchSet.number

/-- The patch sets that are shown: all of them, or those with the current number. -/
def shownPatchSets (options : OptionSet) (c : Change) : List PatchSet :=
  (sortPatchSets c.patchSets).filter fun p => options.contains .allRevisions || isCurrent c p

/-- The reports of the patch sets by revision; a repeated revision keeps the last report. -/
def revisionReports (options : OptionSet) (c : Change) (found : List (String × RevisionReport)) :
    List PatchSet → Act ApiError (List (String × RevisionReport))
  | [] => return found
  | p :: ps => do
    let r ← revisionReport options (isCurrent c p) p
    revisionReports options c (Json.setEntry p.revision.hex r found) ps

def showsLabels (options : OptionSet) : Bool :=
  options.contains .labels || options.contains .detailedLabels

def showsRevisions (options : OptionSet) : Bool :=
  options.contains .currentRevision || options.contains .allRevisions

/-- The patch set whose size heads the report. -/
def sizedPatchSet (options : OptionSet) (c : Change) : Option PatchSet :=
  if options.contains .skipDiffstat then none else c.currentPatchSet

def reportSnapshot (labels : List Label) (options : OptionSet) (s : Snapshot)
    (contributions : List Contribution) : Act ApiError ChangeReport := do
  let c := s.state
  let details := options.contains .detailedAccounts
  let labelSection ←
    if showsLabels options then some <$> labelReports options c [] labels else pure none
  let messages ←
    if options.contains .messages then some <$> messageReports details c.messages else pure none
  let revisions ←
    if showsRevisions options then
      some <$> revisionReports options c [] (shownPatchSets options c)
    else pure none
  let owner ← summaryOf details c.owner
  return {
    id := c.triplet
    project := c.project
    branch := c.branch
    topic := c.topic
    hashtags := c.hashtags
    key := c.key
    subject := c.subject
    status := c.status
    created := Calendar.timestamp c.created
    updated := Calendar.timestamp c.updated
    submittable := if options.contains .submittable then some (isSubmittable labels c) else none
    insertions := (sizedPatchSet options c).map PatchSet.insertions
    deletions := (sizedPatchSet options c).map PatchSet.deletions
    number := c.id
    owner := owner
    metaId := s.metaId.hex
    labels := labelSection
    messages := messages
    currentRevision :=
      if showsRevisions options then c.currentPatchSet.map fun p => p.revision.hex else none
    revisions := revisions
    contributions := if contributions.isEmpty then none else some contributions }

/-- The report of a change, as it is now or as a pinned snapshot recorded it. -/
def reportChange (labels : List Label) (factories : List Factory) (options : OptionSet)
    (n : ChangeNumber) (pin : Option ObjectId) : Act ApiError ChangeReport := do
  let s ← (Act.getChange n pin).mapError .ofStore
  reportSnapshot labels options s
    (Contribution.forChange n (Contribution.collect factories [s.state]))

end CodeReview
