import CodeReview.Change.Lookup
import CodeReview.Proofs.Account.Matching
import CodeReview.Proofs.Store.Later
import CodeReview.Proofs.Text.Numeral
import CodeReview.Proofs.Text.Query
set_option autoImplicit false

/-!
The texts that name a change: its number, its key, its project and number, or its project, branch
and key. All but the number mean the change as it is now, and a key names a change only while no
other change in question has it. Every other text names nothing.
-/
namespace CodeReview
open Act Text.Numeral

theorem intercalate_parts (id : String) : "~".intercalate (parts id) = id := by
  have pieces : (parts id).map String.toList = id.toList.splitOn '~' := by
    rw [parts, List.map_map, ← Text.split_eq_splitOn]
    simp
  rw [← String.toList_inj, String.toList_intercalate, pieces]
  exact List.intercalate_splitOn '~'

theorem not_mem_of_mem_parts {id piece : String} (h : piece ∈ parts id) :
    '~' ∉ piece.toList := by
  obtain ⟨cs, there, rfl⟩ := List.mem_map.1 h
  rw [String.toList_ofList]
  exact Text.not_mem_of_mem_split there

theorem parts_of_bare {piece : String} (bare : '~' ∉ piece.toList) : parts piece = [piece] := by
  rw [parts, Text.split_of_not_mem bare, List.map_singleton, String.ofList_toList]

theorem parts_append {piece : String} (bare : '~' ∉ piece.toList) (rest : String) :
    parts (piece ++ "~" ++ rest) = piece :: parts rest := by
  have written : (piece ++ "~" ++ rest).toList = piece.toList ++ '~' :: rest.toList := by simp
  rw [parts, written, Text.split_append bare, List.map_cons, String.ofList_toList, parts]

theorem parts_triplet {project branch key : String} (bareProject : '~' ∉ project.toList)
    (bareBranch : '~' ∉ branch.toList) (bareKey : '~' ∉ key.toList) :
    parts (project ++ "~" ++ branch ++ "~" ++ key) = [project, branch, key] := by
  have pieces : project ++ "~" ++ branch ++ "~" ++ key =
      project ++ "~" ++ (branch ++ "~" ++ key) := by simp only [String.append_assoc]
  rw [pieces, parts_append bareProject, parts_append bareBranch, parts_of_bare bareKey]

namespace Store

/-- The state in which a change is now. -/
def current? (s : Store) (n : ChangeNumber) : Option Change :=
  (s.getChange n none).toOption.map Snapshot.state

/-- The change is now in a state of this kind, and no other change is. -/
def Sole (s : Store) (kind : Change → Prop) (n : ChangeNumber) : Prop :=
  (∃ c, s.current? n = some c ∧ kind c) ∧ ∀ m c, s.current? m = some c → kind c → m = n

/-- The text names the change. -/
inductive Names (s : Store) : String → ChangeNumber → Prop where
  | number {number : String} {n : ChangeNumber} {c : Change} (bare : '~' ∉ number.toList)
    (reads : Denotes number.toList n.number.toNat) (there : s.current? n = some c) :
    Names s number n
  | key {key : String} {n : ChangeNumber} (bare : '~' ∉ key.toList)
    (word : ∀ k : UInt32, ¬Denotes key.toList k.toNat) (mark : key.toList.head? = some 'I')
    (sole : s.Sole (fun c => c.key = key) n) : Names s key n
  | projectNumber {project number : String} {n : ChangeNumber} {c : Change}
    (bareProject : '~' ∉ project.toList) (bareNumber : '~' ∉ number.toList)
    (reads : Denotes number.toList n.number.toNat) (there : s.current? n = some c)
    (own : c.project = project) : Names s (project ++ "~" ++ number) n
  | triplet {project branch key : String} {n : ChangeNumber} (bareProject : '~' ∉ project.toList)
    (bareBranch : '~' ∉ branch.toList) (bareKey : '~' ∉ key.toList)
    (mark : key.toList.head? = some 'I')
    (sole : s.Sole (fun c => c.project = project ∧ c.branch = branch ∧ c.key = key) n) :
    Names s (project ++ "~" ++ branch ++ "~" ++ key) n

variable {s : Store} {n : ChangeNumber}

theorem Reachable.mem_findByKey (h : s.Reachable) {key : String} :
    n ∈ s.findByKey key ↔ ∃ c, s.current? n = some c ∧ c.key = key := by
  obtain ⟨log, hk⟩ := h.keeps
  rw [hk.mem_findByKey, current?]
  by_cases known : history log n = []
  · rw [hk.getChange_unknown known, known]
    simp [Except.toOption]
  · obtain ⟨x, last⟩ := exists_last known
    rw [hk.getChange_known known, snapshot?, last]
    simp [Except.toOption]

/-- One change alone is of a kind when the list of those that are has it and nothing else. -/
theorem sole_iff {kind : Change → Prop} {l : List ChangeNumber}
    (listed : ∀ m, m ∈ l ↔ ∃ c, s.current? m = some c ∧ kind c) :
    s.Sole kind n ↔ n ∈ l ∧ ∀ m ∈ l, m = n := by
  simp only [Sole, listed, forall_exists_index, and_imp]

end Store

section
variable {w : World} {n : ChangeNumber}

theorem run_findChange (hs : w.store.Reachable) (hf : w.failing = []) (n : ChangeNumber) :
    (findChange n).run w = (.ok (w.store.getChange n none).toOption, w) := by
  have outcome : ((Act.getChange n none).outcome : Act ApiError _).run w =
      (.ok (w.store.getChange n none), w) := by
    rw [run_outcome, Act.getChange, run_read_of_works hf]
  rw [findChange, run_bind_of_ok outcome]
  cases found : w.store.getChange n none with
  | ok x => rfl
  | error e =>
    rcases hs.getChange_error found with rfl | ⟨id, pinned, -⟩
    · rfl
    · cases pinned

theorem run_acceptedChanges (hf : w.failing = []) (accept : Change → Bool)
    {ns : List ChangeNumber} (known : ∀ n ∈ ns, ∃ c, w.store.current? n = some c) :
    (acceptedChanges accept ns).run w =
      (.ok (ns.filter fun n => (w.store.current? n).any accept), w) := by
  induction ns with
  | nil => rfl
  | cons n ns ih =>
    obtain ⟨c, now⟩ := known n List.mem_cons_self
    obtain ⟨x, read, rfl⟩ := Option.map_eq_some_iff.1 now
    have got : ((Act.getChange n none).mapError ApiError.ofStore).run w = (.ok x, w) := by
      rw [run_mapError, Act.getChange, run_read_of_works hf]
      cases found : w.store.getChange n none with
      | ok y =>
        rw [found] at read
        cases read
        rfl
      | error e =>
        rw [found] at read
        cases read
    rw [acceptedChanges, run_bind_of_ok got,
      run_bind_of_ok (ih fun m there => known m (List.mem_cons_of_mem n there))]
    cases good : accept x.state <;> simp [now, good]

/-- A key that starts with the letter finds the one change that has it and is accepted. -/
theorem changeByKey_exact (hs : w.store.Reachable) (hf : w.failing = []) (key : String)
    (accept : Change → Bool) :
    ∃ found, (changeByKey key accept).run w = (.ok found, w) ∧
      ∀ n, found = some n ↔ key.toList.head? = some 'I' ∧
        w.store.Sole (fun c => c.key = key ∧ accept c = true) n := by
  by_cases mark : key.toList.head? = some 'I'
  case neg =>
    refine ⟨none, ?_, fun n => ⟨nofun, fun h => absurd h.1 mark⟩⟩
    rw [changeByKey, if_pos mark]
    rfl
  have known : ∀ n ∈ w.store.findByKey key, ∃ c, w.store.current? n = some c := by
    intro n there
    obtain ⟨c, now, -⟩ := hs.mem_findByKey.1 there
    exact ⟨c, now⟩
  have ascending : Ascending ((w.store.findByKey key).filter fun n =>
      (w.store.current? n).any accept) := by
    obtain ⟨log, hk⟩ := hs.keeps
    exact (hk.ascending_findByKey key).filter _
  have listed (n : ChangeNumber) :
      n ∈ ((w.store.findByKey key).filter fun n => (w.store.current? n).any accept) ↔
        ∃ c, w.store.current? n = some c ∧ c.key = key ∧ accept c = true := by
    rw [List.mem_filter, hs.mem_findByKey, Option.any_eq_true]
    constructor
    · rintro ⟨⟨c, now, own⟩, d, same, good⟩
      rw [now] at same
      cases same
      exact ⟨c, now, own, good⟩
    · rintro ⟨c, now, own, good⟩
      exact ⟨⟨c, now, own⟩, c, now, good⟩
  have keys : ((Act.findByKey key).mapError ApiError.ofStore).run w =
      (.ok (w.store.findByKey key), w) := run_mapError_read hf .findByKey fun s => s.findByKey key
  rw [changeByKey, if_neg (not_not.2 mark), run_bind_of_ok keys,
    run_bind_of_ok (run_acceptedChanges hf accept known)]
  simp only [mark, true_and, Store.sole_iff listed]
  generalize (w.store.findByKey key).filter (fun n => (w.store.current? n).any accept) = l
    at ascending
  cases l with
  | nil => exact ⟨none, rfl, by simp⟩
  | cons a l =>
    cases l with
    | nil => exact ⟨some a, rfl, by simp [eq_comm]⟩
    | cons b l =>
      -- Two changes differ, so neither of them can be the only one.
      have differ : a.number < b.number := (List.pairwise_cons.1 ascending).1 b List.mem_cons_self
      refine ⟨none, rfl, fun n => ⟨nofun, fun h => ?_⟩⟩
      rw [h.2 a List.mem_cons_self, h.2 b (List.mem_cons_of_mem a List.mem_cons_self)] at differ
      exact absurd differ (UInt32.lt_irrefl _)

theorem changeByKey_iff (hs : w.store.Reachable) (hf : w.failing = []) {key : String}
    {accept : Change → Bool} :
    (changeByKey key accept).run w = (.ok (some n), w) ↔ key.toList.head? = some 'I' ∧
      w.store.Sole (fun c => c.key = key ∧ accept c = true) n := by
  obtain ⟨found, run, exact⟩ := changeByKey_exact hs hf key accept
  rw [run, ← exact n]
  simp

/-- Whatever the parts are, finding a change by them does not fail. -/
theorem changeOfParts_total (hs : w.store.Reachable) (hf : w.failing = []) (pieces : List String) :
    ∃ found, (changeOfParts pieces).run w = (.ok found, w) := by
  unfold changeOfParts
  split
  · split
    · exact ⟨_, by rw [run_bind_of_ok (run_findChange hs hf _)]; rfl⟩
    · obtain ⟨found, run, -⟩ := changeByKey_exact hs hf _ _
      exact ⟨found, run⟩
  · split
    · exact ⟨_, by rw [run_bind_of_ok (run_findChange hs hf _)]; rfl⟩
    · exact ⟨none, rfl⟩
  · obtain ⟨found, run, -⟩ := changeByKey_exact hs hf _ _
    exact ⟨found, run⟩
  · exact ⟨none, rfl⟩

/-- What is found for the parts of a text is what the text names. -/
theorem names_of_found (hs : w.store.Reachable) (hf : w.failing = []) {id : String}
    (found : (changeOfParts (parts id)).run w = (.ok (some n), w)) : w.store.Names id n := by
  have whole := intercalate_parts id
  have bare : ∀ piece ∈ parts id, '~' ∉ piece.toList := fun piece => not_mem_of_mem_parts
  generalize parts id = pieces at found whole bare
  rw [← whole]
  unfold changeOfParts at found
  split at found
  · next part =>
    split at found
    · next m read =>
      rw [run_bind_of_ok (run_findChange hs hf m)] at found
      obtain ⟨x, got, rfl⟩ := Option.map_eq_some_iff.1 (Except.ok.inj (Prod.mk.inj found).1)
      exact .number (c := x.state) (bare part (by simp)) (ChangeNumber.parse?_eq_some_iff.1 read)
        (by rw [Store.current?, got, Option.map_some])
    · next word =>
      obtain ⟨mark, sole⟩ := (changeByKey_iff hs hf).1 found
      refine .key (bare part (by simp)) (fun k (number : Denotes part.toList k.toNat) => ?_) mark
        (by simpa using sole)
      rw [ChangeNumber.parse?_eq_some_iff.2 number] at word
      cases word
  · next project number =>
    split at found
    · next m read =>
      rw [run_bind_of_ok (run_findChange hs hf m)] at found
      obtain ⟨x, got, rfl⟩ := Option.map_eq_some_iff.1 (Except.ok.inj (Prod.mk.inj found).1)
      obtain ⟨got, own⟩ := Option.filter_eq_some_iff.1 got
      exact .projectNumber (c := x.state) (bare project (by simp)) (bare number (by simp))
        (ChangeNumber.parse?_eq_some_iff.1 read) (by rw [Store.current?, got, Option.map_some])
        (by simpa using own)
    · cases found
  · next project branch key =>
    obtain ⟨mark, sole⟩ := (changeByKey_iff hs hf).1 found
    refine .triplet (bare project (by simp)) (bare branch (by simp)) (bare key (by simp)) mark ?_
    simpa [and_comm, and_assoc] using sole
  · cases found

/-- A change that a text names is found for the parts of the text. -/
theorem found_of_names (hs : w.store.Reachable) (hf : w.failing = []) {id : String}
    (h : w.store.Names id n) : (changeOfParts (parts id)).run w = (.ok (some n), w) := by
  cases h with
  | number bare reads there =>
    obtain ⟨x, got, rfl⟩ := Option.map_eq_some_iff.1 there
    rw [parts_of_bare bare, changeOfParts, ChangeNumber.parse?_eq_some_iff.2 reads]
    dsimp only
    rw [run_bind_of_ok (run_findChange hs hf _), got]
    rfl
  | key bare word mark sole =>
    have read : ChangeNumber.parse? id = none := by
      rw [Option.eq_none_iff_forall_ne_some]
      exact fun m number => word m.number (ChangeNumber.parse?_eq_some_iff.1 number)
    rw [parts_of_bare bare, changeOfParts, read]
    exact (changeByKey_iff hs hf).2 ⟨mark, by simpa using sole⟩
  | projectNumber bareProject bareNumber reads there own =>
    obtain ⟨x, got, rfl⟩ := Option.map_eq_some_iff.1 there
    rw [parts_append bareProject, parts_of_bare bareNumber, changeOfParts,
      ChangeNumber.parse?_eq_some_iff.2 reads]
    dsimp only
    rw [run_bind_of_ok (run_findChange hs hf _), got]
    simp [own]
  | triplet bareProject bareBranch bareKey mark sole =>
    rw [parts_triplet bareProject bareBranch bareKey, changeOfParts]
    refine (changeByKey_iff hs hf).2 ⟨mark, ?_⟩
    simpa [and_comm, and_assoc] using sole

/-- A text leads to the change that it names, and a text that names none is not found. So a change
is found by its project, branch and key if no other change has all three. -/
theorem parseChange_exact (hs : w.store.Reachable) (hf : w.failing = []) :
    (∀ id n, (parseChange id).run w = (.ok n, w) ↔ w.store.Names id n) ∧
    (∀ id, (∀ n, ¬w.store.Names id n) →
      (parseChange id).run w = (.error ⟨.notFound, "Not found: " ++ id⟩, w)) ∧
    ∀ n c, w.store.current? n = some c →
      '~' ∉ c.project.toList → '~' ∉ c.branch.toList → '~' ∉ c.key.toList →
      c.key.toList.head? = some 'I' →
      (∀ m d, w.store.current? m = some d → d.project = c.project → d.branch = c.branch →
        d.key = c.key → m = n) →
      (parseChange c.triplet).run w = (.ok n, w) := by
  have exact (id : String) (n : ChangeNumber) :
      (parseChange id).run w = (.ok n, w) ↔ w.store.Names id n := by
    obtain ⟨found, run⟩ := changeOfParts_total hs hf (parts id)
    have named : w.store.Names id n ↔ found = some n := by
      refine ⟨fun h => ?_, fun h => names_of_found hs hf (h ▸ run)⟩
      have again := found_of_names hs hf h
      rw [run] at again
      exact Except.ok.inj (Prod.mk.inj again).1
    rw [named, parseChange, run_bind_of_ok run]
    cases found with
    | none => simp
    | some m => simp
  refine ⟨exact, fun id nothing => ?_, fun n c now bareProject bareBranch bareKey mark only => ?_⟩
  · obtain ⟨found, run⟩ := changeOfParts_total hs hf (parts id)
    cases found with
    | none =>
      rw [parseChange, run_bind_of_ok run]
      rfl
    | some n => exact absurd (names_of_found hs hf run) (nothing n)
  · rw [exact, Change.triplet]
    refine .triplet bareProject bareBranch bareKey mark
      ⟨⟨c, now, rfl, rfl, rfl⟩, fun m d there same => ?_⟩
    exact only m d there same.1 same.2.1 same.2.2

end

/-- The draft as it was ported to another branch, under the same key. -/
def ported : Change :=
  { Store.draft with id := ⟨8⟩, branch := "stable" }

def twoBranches : World where
  store := .memory ⟨[], firstAccount, [], firstGroup,
    [⟨⟨7⟩, [⟨Snapshot.idOf none Store.draft, Store.draft⟩]⟩,
      ⟨⟨8⟩, [⟨Snapshot.idOf none ported, ported⟩]⟩]⟩
  failing := []
  directory := .listed []
  now := 0
  readOnly := false

theorem reachable_twoBranches : twoBranches.store.Reachable :=
  (Store.Reachable.memory.write (.insertChange
      (show _ from rfl : Store.insertChange _ Store.draft = .ok (_, _)))).write
    (.insertChange (show _ from rfl : Store.insertChange _ ported = .ok (_, _)))

/-- The branch tells the two apart, and the number of the draft may have zeros in front. -/
theorem branches_told_apart :
    (parseChange "p~stable~I1").run twoBranches = (.ok ⟨8⟩, twoBranches) ∧
    (parseChange "p~007").run twoBranches = (.ok ⟨7⟩, twoBranches) := by
  obtain ⟨exact, -, full⟩ := parseChange_exact reachable_twoBranches rfl
  constructor
  · refine full ⟨8⟩ ported rfl (by decide) (by decide) (by decide) (by decide) ?_
    intro m d there _ branch _
    by_cases other : m = ⟨7⟩
    · subst other
      cases there
      exact absurd branch (by decide)
    · by_contra ne
      have unknown : twoBranches.store.current? m = none := by
        simp [twoBranches, Store.current?, Store.getChange, MemoryStore.getChange,
          MemoryStore.history?, Except.toOption, eq_comm, other, ne]
      rw [unknown] at there
      cases there
  · have named : twoBranches.store.Names ("p" ++ "~" ++ "007") ⟨7⟩ :=
      .projectNumber (c := Store.draft) (by decide) (by decide)
        ⟨[0, 0, 7], by decide, by decide, rfl, .inl rfl⟩ rfl rfl
    exact (exact _ _).2 named

end CodeReview
