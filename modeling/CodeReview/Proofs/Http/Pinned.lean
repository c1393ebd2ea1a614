import CodeReview.Proofs.Change.Naming
import CodeReview.Proofs.Change.Shown
import CodeReview.Proofs.Http.Repeated
import CodeReview.Proofs.Http.Target
import CodeReview.Proofs.Store.Later
set_option autoImplicit false

/-!
Reads that are pinned to a snapshot. Without details of accounts a report shows an account by its
id alone, whether or not the account is there, so all that it says comes from the snapshot and
from what the site fixes. Its text and its tag stay the same whatever is written later.
-/
namespace CodeReview
open Act

section
variable {w : World} {n : ChangeNumber}

/-- A report without details shows every account alike, known or not. -/
theorem shown_without_details {options : OptionSet}
    (plain : options.contains .detailedAccounts = false) :
    w.shown options = AccountSummary.idOnly := by
  funext id
  rw [World.shown, plain, Store.summary]
  cases found : w.store.accounts.find? fun a => a.id = id with
  | none => rfl
  | some a =>
    have same : a.id = id := by simpa using List.find?_some found
    rw [← same]
    rfl

theorem run_getChange (hf : .getChange ∉ w.failing) (pin : Option ObjectId) :
    (getChange n pin).run w = (w.store.getChange n pin, w) := by
  rw [getChange, run_read, if_neg hf]

theorem parts_number (n : ChangeNumber) : parts n.text = [n.text] := by
  have digit : ∀ d < 10, '~' ≠ Nat.digitChar d := by decide
  have whole : '~' ∉ n.text.toList := by
    intro there
    obtain ⟨d, small, tilde⟩ := Text.Numeral.mem_decimalText there
    exact digit d small tilde
  exact parts_of_bare whole

/-- A change that is there is found under its number. -/
theorem run_parseChange_number (hf : .getChange ∉ w.failing) {x : Snapshot}
    (known : w.store.getChange n none = .ok x) : (parseChange n.text).run w = (.ok n, w) := by
  have found : (findChange n).run w = (.ok (some x), w) := by
    have outcome : ((getChange n none).outcome : Act ApiError _).run w = (.ok (.ok x), w) := by
      rw [run_outcome, run_getChange hf, known]
    rw [findChange, run_bind_of_ok outcome]
    rfl
  have named : (changeOfParts (parts n.text)).run w = (.ok (some n), w) := by
    rw [parts_number, changeOfParts, ChangeNumber.parse?_text]
    dsimp only
    rw [run_bind_of_ok found]
    rfl
  rw [parseChange, run_bind_of_ok named]
  rfl

end

namespace Http

/-- The text of the report of a snapshot that shows accounts by their ids alone. -/
def plainBody (site : Site) (n : ChangeNumber) (options : OptionSet) (x : Snapshot) : String :=
  (ChangeReport.of .idOnly site.labels options x
    (Contribution.forChange n (Contribution.collect site.factories [x.state]))).toJson.compact

section
variable {site : Site} {w : World} {n : ChangeNumber} {x : Snapshot}

theorem run_reportChange_plain (works : w.failing = []) {options : OptionSet}
    (plain : options.contains .detailedAccounts = false) {pin : Option ObjectId}
    (found : w.store.getChange n pin = .ok x) :
    ∃ report, (reportChange site.labels site.factories options n pin).run w = (.ok report, w) ∧
      report.toJson.compact = plainBody site n options x := by
  have never (call : StoreCall) : call ∉ w.failing := works ▸ List.not_mem_nil
  have snapshot : ((getChange n pin).mapError ApiError.ofStore).run w = (.ok x, w) := by
    rw [run_mapError_eq_ok, run_getChange (never _), found]
  refine ⟨_, ?_, rfl⟩
  rw [reportChange, run_bind_of_ok snapshot, run_reportSnapshot (never _),
    shown_without_details plain]

/-- Options that are named and a pin, as the pairs of a query. -/
def pinnedQuery (options : List OutputOption) (m : ObjectId) : List (String × String) :=
  options.map (fun o => ("o", o.name)) ++ [("meta", m.hex)]

theorem steps_names (p : ChangeQuery.Pending) (options : List OutputOption)
    (rest : List (String × String)) :
    ChangeQuery.steps p (options.map (fun o => ("o", o.name)) ++ rest) =
      ChangeQuery.steps { p with names := p.names ++ options.map OutputOption.name } rest := by
  induction options generalizing p with
  | nil => rw [List.map_nil, List.nil_append, List.map_nil, List.append_nil]
  | cons o os ih =>
    rw [List.map_cons, List.cons_append, ChangeQuery.steps, ChangeQuery.step, if_pos rfl]
    dsimp only
    rw [ih, List.append_assoc, List.singleton_append, List.map_cons]

theorem addNames_names (s : OptionSet) (options : List OutputOption) :
    s.addNames (options.map OutputOption.name) = .ok (options.foldl OptionSet.insert s) := by
  have named (o : OutputOption) : OutputOption.ofName? o.name = some o := by
    cases o <;> decide
  induction options generalizing s with
  | nil => rfl
  | cons o os ih =>
    rw [List.map_cons, OptionSet.addNames, named]
    exact ih _

/-- Every list of options can be asked for together with a pin. -/
theorem ofPairs_pinnedQuery (options : List OutputOption) (m : ObjectId) :
    ChangeQuery.ofPairs (pinnedQuery options m) =
      .ok ⟨OptionSet.empty.union (.ofList options), some m⟩ := by
  have someDigits : m.hex ≠ "" := by
    intro none
    have parsed := m.parse_hex
    rw [none] at parsed
    cases parsed
  have pinned (p : ChangeQuery.Pending) :
      ChangeQuery.steps p [("meta", m.hex)] = .ok { p with pin := some m } := by
    rw [ChangeQuery.steps, ChangeQuery.step, if_neg (by decide), if_neg (by decide), if_pos rfl,
      if_neg someDigits, m.parse_hex]
    rfl
  rw [pinnedQuery, ChangeQuery.ofPairs, steps_names, pinned]
  dsimp only
  rw [List.nil_append, OptionSet.ofNames, addNames_names]
  rfl

/-- A read of a change under its number, pinned to an id, that asks for no details of accounts. -/
structure Pins (r : Request) (n : ChangeNumber) (m : ObjectId) : Prop where
  method : r.method = "GET"
  path : ∃ id, Route.ofPath r.path = some (.change id) ∧
    Text.Percent.segment? id = some n.text.toList
  query : ∀ q, ChangeQuery.ofPairs (Text.Percent.pairs r.query) = .ok q →
    q.pin = some m ∧ q.options.contains .detailedAccounts = false

theorem plain_number (n : ChangeNumber) : Text.Percent.Plain n.text.toList := by
  have digit : ∀ d < 10, Text.Percent.isPlain (Nat.digitChar d) = true := by decide
  intro c there
  obtain ⟨d, small, rfl⟩ := Text.Numeral.mem_decimalText there
  exact digit d small

theorem plainPairs_pinnedQuery (options : List OutputOption) (m : ObjectId) :
    Text.Percent.PlainPairs (pinnedQuery options m) := by
  have name (o : OutputOption) : Text.Percent.Plain o.name.toList := by
    cases o <;> exact Text.Percent.plain_of_all (by decide)
  have hex : Text.Percent.Plain m.hex.toList := by
    rw [ObjectId.hex, String.toList_ofList]
    exact Text.Percent.plain_encode m.bytes
  have keys : Text.Percent.Plain "o".toList ∧ Text.Percent.Plain "meta".toList :=
    ⟨Text.Percent.plain_of_all (by decide), Text.Percent.plain_of_all (by decide)⟩
  intro p there
  rcases List.mem_append.1 there with there | there
  · obtain ⟨o, -, rfl⟩ := List.mem_map.1 there
    exact ⟨keys.1, name o⟩
  · obtain rfl := List.mem_singleton.1 there
    exact ⟨keys.2, hex⟩

/-- The request for a change under its number with named options and a pin. -/
def pinnedRead (n : ChangeNumber) (options : List OutputOption) (m : ObjectId) : Request :=
  ⟨"GET", String.ofList ("/changes/".toList ++ n.text.toList ++
    '?' :: Text.Percent.queryChars (pinnedQuery options m)), [], []⟩

theorem pins_pinnedRead (n : ChangeNumber) {options : List OutputOption} (m : ObjectId)
    (plain : (OptionSet.ofList options).contains .detailedAccounts = false) :
    Pins (pinnedRead n options m) n m := by
  have number := plain_number n
  have pairs := plainPairs_pinnedQuery options m
  obtain ⟨route, query⟩ := route_of_change (r := pinnedRead n options m) String.toList_ofList
    (.of_plain number) (Text.Numeral.decimalText_ne_nil _)
    (Text.Percent.not_mem_queryChars (by decide) (pairs.not_mem (by decide)))
  refine ⟨rfl, ⟨_, route, Text.Percent.segment?_plain number⟩, fun q parsed => ?_⟩
  rw [query, Text.Percent.pairs_queryChars pairs, ofPairs_pinnedQuery] at parsed
  obtain rfl := Except.ok.inj parsed
  rw [OptionSet.contains_union, OptionSet.contains_empty, plain]
  exact ⟨rfl, rfl⟩

end

/-- A read that is pinned to an id in a history, without details of accounts, gets the same
answer, byte for byte and with the same tag, after all later writes. -/
theorem pinned_read_immutable (site : Site) {r : Request} {w : World} {n : ChangeNumber}
    {m : ObjectId} {ids : List ObjectId} (reachable : w.store.Reachable)
    (recorded : w.store.metaHistory n = .ok ids) (there : m ∈ ids) (pins : Pins r n m) :
    ∃ response,
      (∀ q, ChangeQuery.ofPairs (Text.Percent.pairs r.query) = .ok q →
        ∃ x, w.store.getChange n (some m) = .ok x ∧
          response = taggedResponse r (plainBody site n q.options x)) ∧
      ∀ v : World, v.failing = [] → w.store.Later v.store → answer site r v = (response, v) := by
  obtain ⟨x, always⟩ := reachable.pinned recorded there
  obtain ⟨id, path, segment⟩ := pins.path
  have get (v : World) : answer site r v = respond (readChange site r .empty n.text) v := by
    rw [answer_get pins.method path segment, String.ofList_toList]
  -- The query is read before the store is asked, so a query that is refused is refused always.
  cases parsed : ChangeQuery.ofPairs (Text.Percent.pairs r.query) with
  | error e =>
    refine ⟨.ofError e, ⟨fun q ok => ?_, fun v _ _ => ?_⟩⟩
    · cases ok
    · have refused : (readChange site r .empty n.text).run v = (.error e, v) := by
        rw [readChange, parsed, run_bind]
        rfl
      rw [get, respond_of_error refused]
  | ok q =>
    obtain ⟨pinned, plain⟩ := pins.query q parsed
    refine ⟨taggedResponse r (plainBody site n q.options x), ?_, fun v works later => ?_⟩
    · intro q' ok
      cases ok
      exact ⟨x, (always _ .refl).1, rfl⟩
    · obtain ⟨found, y, known⟩ := always _ later
      have query : (Act.ofExcept (ChangeQuery.ofPairs (Text.Percent.pairs r.query))).run v =
          (.ok q, v) := by rw [parsed, run_ofExcept]
      have named := run_parseChange_number (works ▸ List.not_mem_nil) known
      have same : q.options.union .empty = q.options := by
        simp [OptionSet.union, OptionSet.empty]
      obtain ⟨report, run, text⟩ : ∃ report,
          (reportChange site.labels site.factories q.options n q.pin).run v = (.ok report, v) ∧
            report.toJson.compact = plainBody site n q.options x :=
        run_reportChange_plain works plain (pinned ▸ found)
      rw [get, respond_of_ok]
      rw [readChange, run_bind_of_ok query, run_bind_of_ok named, same, run_bind_of_ok run, text]
      rfl

/-- Tables with the draft alone. -/
def draftWorld : World where
  store := .tables
    ⟨[], [], [], [⟨⟨7⟩, "I1", Snapshot.idOf none Store.draft⟩],
      [⟨Snapshot.idOf none Store.draft, ⟨7⟩, 0, none, Snapshot.stateText Store.draft⟩]⟩
  failing := []
  directory := .listed []
  now := 0
  readOnly := false

theorem reachable_draftWorld : draftWorld.store.Reachable :=
  .write .tables (.insertChange
    (show _ from rfl : Store.insertChange _ Store.draft = .ok (Snapshot.idOf none Store.draft, _)))

theorem keeps_draftWorld :
    draftWorld.store.Keeps [⟨Snapshot.idOf none Store.draft, Store.draft⟩] := by
  obtain ⟨t, inserted, kept⟩ :=
    (Store.keeps_empty (.inr rfl)).insertChange_fresh (s := .tables .empty) (c := Store.draft) rfl
  rw [show Store.insertChange (.tables .empty) Store.draft =
    .ok (Snapshot.idOf none Store.draft, draftWorld.store) from rfl] at inserted
  cases inserted
  exact kept

/-- The draft is read the same, with its labels and messages, after its owner has registered and
has written a revision with another key and subject. -/
theorem draft_read_again :
    ∃ response s t a,
      draftWorld.store.createAccount ⟨some "owner", none, none, true, 0⟩ = .ok (a, s) ∧
      s.updateChange Store.revisedDraft =
        .ok (Snapshot.idOf (some (Snapshot.idOf none Store.draft)) Store.revisedDraft, t) ∧
      ∀ v : World, v.failing = [] → v.store = draftWorld.store ∨ v.store = t →
        answer (.ofSettings .default)
          (pinnedRead ⟨7⟩ [.labels, .messages] (Snapshot.idOf none Store.draft)) v =
            (response, v) := by
  have recorded : draftWorld.store.metaHistory ⟨7⟩ = .ok [Snapshot.idOf none Store.draft] := rfl
  have plain : (OptionSet.ofList [.labels, .messages]).contains .detailedAccounts = false := by
    decide
  obtain ⟨response, -, same⟩ := pinned_read_immutable (.ofSettings .default) reachable_draftWorld
    recorded List.mem_cons_self (pins_pinnedRead ⟨7⟩ (Snapshot.idOf none Store.draft) plain)
  obtain ⟨a, s, registered⟩ : ∃ a s,
      draftWorld.store.createAccount ⟨some "owner", none, none, true, 0⟩ = .ok (a, s) := ⟨_, _, rfl⟩
  have kept := keeps_draftWorld.of_changes (Store.createAccount_eq_ok registered).2.2.2
  have fresh : Snapshot.idOf (some (Snapshot.idOf none Store.draft)) Store.revisedDraft ∉
      [Snapshot.idOf none Store.draft] := by
    rw [Store.idOf_draft, Store.idOf_revisedDraft]
    decide
  obtain ⟨t, revised, -⟩ :=
    kept.updateChange_known (c := Store.revisedDraft) (List.cons_ne_nil _ _) fresh
  refine ⟨response, s, t, a, registered, revised, fun v works store => same v works ?_⟩
  rcases store with store | store
  · rw [store]
    exact .refl
  · rw [store]
    exact (Relation.ReflTransGen.single (.createAccount registered)).tail (.updateChange revised)

end Http

end CodeReview
