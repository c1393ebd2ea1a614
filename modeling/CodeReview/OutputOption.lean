import CodeReview.InputError
import CodeReview.Text.Blank
set_option autoImplicit false

/-!
Output options: which optional parts of a change are shown. Each option has a name and a fixed
bit. A set of options is given by names, by a mask in base sixteen, or by both, and a mask with a
bit that belongs to no option is refused.
-/
namespace CodeReview

inductive OutputOption where
  | labels
  | currentRevision
  | allRevisions
  | currentCommit
  | allCommits
  | currentFiles
  | allFiles
  | detailedAccounts
  | detailedLabels
  | messages
  | currentActions
  | reviewed
  | draftComments
  | downloadCommands
  | webLinks
  | check
  | changeActions
  | commitFooters
  | pushCertificates
  | reviewerUpdates
  | submittable
  | trackingIds
  | skipMergeable
  | skipDiffstat
  deriving DecidableEq, Repr

namespace OutputOption

def all : List OutputOption :=
  [.labels, .currentRevision, .allRevisions, .currentCommit, .allCommits, .currentFiles,
    .allFiles, .detailedAccounts, .detailedLabels, .messages, .currentActions, .reviewed,
    .draftComments, .downloadCommands, .webLinks, .check, .changeActions, .commitFooters,
    .pushCertificates, .reviewerUpdates, .submittable, .trackingIds, .skipMergeable,
    .skipDiffstat]

def bit : OutputOption → Nat
  | .labels => 0
  | .currentRevision => 1
  | .allRevisions => 2
  | .currentCommit => 3
  | .allCommits => 4
  | .currentFiles => 5
  | .allFiles => 6
  | .detailedAccounts => 7
  | .detailedLabels => 8
  | .messages => 9
  | .currentActions => 10
  | .reviewed => 11
  | .draftComments => 12
  | .downloadCommands => 13
  | .webLinks => 14
  | .check => 15
  | .changeActions => 16
  | .commitFooters => 17
  | .pushCertificates => 18
  | .reviewerUpdates => 19
  | .submittable => 20
  | .trackingIds => 21
  | .skipMergeable => 22
  | .skipDiffstat => 23

def name : OutputOption → String
  | .labels => "LABELS"
  | .currentRevision => "CURRENT_REVISION"
  | .allRevisions => "ALL_REVISIONS"
  | .currentCommit => "CURRENT_COMMIT"
  | .allCommits => "ALL_COMMITS"
  | .currentFiles => "CURRENT_FILES"
  | .allFiles => "ALL_FILES"
  | .detailedAccounts => "DETAILED_ACCOUNTS"
  | .detailedLabels => "DETAILED_LABELS"
  | .messages => "MESSAGES"
  | .currentActions => "CURRENT_ACTIONS"
  | .reviewed => "REVIEWED"
  | .draftComments => "DRAFT_COMMENTS"
  | .downloadCommands => "DOWNLOAD_COMMANDS"
  | .webLinks => "WEB_LINKS"
  | .check => "CHECK"
  | .changeActions => "CHANGE_ACTIONS"
  | .commitFooters => "COMMIT_FOOTERS"
  | .pushCertificates => "PUSH_CERTIFICATES"
  | .reviewerUpdates => "REVIEWER_UPDATES"
  | .submittable => "SUBMITTABLE"
  | .trackingIds => "TRACKING_IDS"
  | .skipMergeable => "SKIP_MERGEABLE"
  | .skipDiffstat => "SKIP_DIFFSTAT"

theorem mem_all (o : OutputOption) : o ∈ all := by
  cases o <;> decide

theorem bit_lt (o : OutputOption) : o.bit < 24 := by
  cases o <;> decide

/-- The bit of an option is its place among all options. -/
theorem getElem?_bit (o : OutputOption) : all[o.bit]? = some o := by
  cases o <;> rfl

theorem bit_injective {a b : OutputOption} (h : a.bit = b.bit) : a = b :=
  Option.some.inj ((getElem?_bit a).symm.trans (h ▸ getElem?_bit b))

def ofName? (token : String) : Option OutputOption :=
  all.find? fun o => Text.sameFolded o.name token

end OutputOption

/-- A set of output options, one bit for each. -/
structure OptionSet where
  bits : BitVec 24
  deriving DecidableEq, Repr

namespace OptionSet

def empty : OptionSet :=
  ⟨0⟩

def insert (s : OptionSet) (o : OutputOption) : OptionSet :=
  ⟨s.bits ||| BitVec.twoPow 24 o.bit⟩

def contains (s : OptionSet) (o : OutputOption) : Bool :=
  s.bits.getLsbD o.bit

def union (s t : OptionSet) : OptionSet :=
  ⟨s.bits ||| t.bits⟩

def ofList (os : List OutputOption) : OptionSet :=
  os.foldl insert empty

def toList (s : OptionSet) : List OutputOption :=
  OutputOption.all.filter s.contains

def isEmpty (s : OptionSet) : Bool :=
  s.bits = 0

def size (s : OptionSet) : Nat :=
  s.toList.length

def mask (s : OptionSet) : Nat :=
  s.bits.toNat

theorem contains_empty (o : OutputOption) : empty.contains o = false := by
  simp [empty, contains]

theorem contains_insert (s : OptionSet) (a b : OutputOption) :
    (s.insert a).contains b = (s.contains b || decide (a = b)) := by
  have h : (a.bit = b.bit) ↔ a = b := ⟨OutputOption.bit_injective, fun e => e ▸ rfl⟩
  simp only [insert, contains, BitVec.getLsbD_or, BitVec.getLsbD_twoPow, OutputOption.bit_lt, h,
    decide_true, Bool.true_and]

theorem contains_union (s t : OptionSet) (o : OutputOption) :
    (s.union t).contains o = (s.contains o || t.contains o) := by
  simp [union, contains]

theorem mem_toList {s : OptionSet} {o : OutputOption} : o ∈ s.toList ↔ s.contains o = true := by
  simp [toList, OutputOption.mem_all]

def ofMask (bits : Nat) : Except InputError OptionSet :=
  if bits < 1 <<< 24 then .ok ⟨BitVec.ofNat 24 bits⟩
  else .error (.undefinedOptionBits (bits >>> 24 <<< 24))

def addNames (s : OptionSet) : List String → Except InputError OptionSet
  | [] => .ok s
  | token :: rest =>
    match OutputOption.ofName? token with
    | some o => addNames (s.insert o) rest
    | none => .error (.unknownOption token)

def ofNames (tokens : List String) : Except InputError OptionSet :=
  empty.addNames tokens

/-- The digits of a mask: at most one mark of base sixteen in front is dropped. -/
def maskDigits : List Char → List Char
  | '0' :: 'x' :: cs => cs
  | '0' :: 'X' :: cs => cs
  | cs => cs

def ofHex (text : String) : Except InputError OptionSet :=
  match Text.Numeral.read 16 (UInt64.size - 1) (maskDigits (Text.trimChars text.toList)) with
  | .ok bits => ofMask bits
  | .error _ => .error (.invalidOptionMask text)

end OptionSet

end CodeReview
