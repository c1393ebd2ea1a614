import Mathlib.Data.List.Induction
import CodeReview.Proofs.Change.Options
set_option autoImplicit false

/-!
What plugins contribute to changes. The entries of all factories are collected by change: changes
stand in the order of their first entries, and the entries of a change in the order in which the
factories were asked and gave them. A report shows the entries of its own change and has nothing
else from plugins.
-/
namespace CodeReview
open Act

section
variable {α : Type} [DecidableEq α]

theorem eraseDups_snoc (xs : List α) (x : α) :
    (xs ++ [x]).eraseDups = if x ∈ xs then xs.eraseDups else xs.eraseDups ++ [x] := by
  rw [List.eraseDups_append]
  by_cases there : x ∈ xs
  · simp [List.removeAll, there]
  · simp [List.removeAll, there, List.eraseDups_cons]

theorem nodup_eraseDups (xs : List α) : xs.eraseDups.Nodup := by
  induction xs using List.reverseRecOn with
  | nil => exact .nil
  | append_singleton xs x ih =>
    rw [eraseDups_snoc]
    split
    · exact ih
    · next new =>
      refine List.nodup_append.2 ⟨ih, List.pairwise_singleton _ _, ?_⟩
      rintro a there b only rfl
      rw [List.mem_singleton.1 only, List.mem_eraseDups] at there
      exact new there

end

namespace Contribution

section
variable {n : ChangeNumber} {c : Contribution} {numbers : List ChangeNumber}
  {values : ChangeNumber → List Contribution}

theorem add_of_mem (nodup : numbers.Nodup) (there : n ∈ numbers) :
    add n c (numbers.map fun m => (m, values m)) =
      numbers.map fun m => (m, if m = n then values m ++ [c] else values m) := by
  induction numbers with
  | nil => cases there
  | cons m numbers ih =>
    obtain ⟨new, nodup⟩ := List.nodup_cons.1 nodup
    rw [List.map_cons, List.map_cons, add]
    by_cases here : m = n
    · subst here
      rw [if_pos rfl, if_pos rfl]
      refine congrArg _ (List.map_congr_left fun k inside => ?_)
      have other : k ≠ m := fun same => new (same ▸ inside)
      rw [if_neg other]
    · rw [if_neg here, if_neg here, ih nodup ((List.mem_cons.1 there).resolve_left (Ne.symm here))]

theorem add_of_not_mem (new : n ∉ numbers) :
    add n c (numbers.map fun m => (m, values m)) =
      (numbers.map fun m => (m, values m)) ++ [(n, [c])] := by
  induction numbers with
  | nil => rfl
  | cons m numbers ih =>
    rw [List.mem_cons, not_or] at new
    rw [List.map_cons, add, if_neg (Ne.symm new.1), ih new.2, List.cons_append]

theorem find?_map_pair (there : n ∈ numbers) :
    (numbers.map fun m => (m, values m)).find? (fun e => e.1 = n) = some (n, values n) := by
  induction numbers with
  | nil => cases there
  | cons m numbers ih =>
    rw [List.map_cons]
    by_cases here : m = n
    · subst here
      exact List.find?_cons_of_pos (decide_eq_true rfl)
    · rw [List.find?_cons_of_neg (by simpa using here)]
      exact ih ((List.mem_cons.1 there).resolve_left (Ne.symm here))

/-- The entries for one change among entries for many. -/
def under (n : ChangeNumber) (given : List (ChangeNumber × Contribution)) : List Contribution :=
  (given.filter fun e => e.1 = n).map Prod.snd

theorem under_append (n : ChangeNumber) (given more : List (ChangeNumber × Contribution)) :
    under n (given ++ more) = under n given ++ under n more := by
  rw [under, List.filter_append, List.map_append]
  rfl

theorem under_eq_nil_iff {given : List (ChangeNumber × Contribution)} :
    under n given = [] ↔ n ∉ given.map Prod.fst := by
  rw [under, List.map_eq_nil_iff, List.filter_eq_nil_iff, List.mem_map, not_exists]
  exact forall_congr' fun e => by simp

/-- Adding entries one by one lists the changes in the order of their first entries, each with all
its entries in their order. -/
theorem foldl_add (given : List (ChangeNumber × Contribution)) :
    given.foldl (fun all e => add e.1 e.2 all) [] =
      (given.map Prod.fst).eraseDups.map fun n => (n, under n given) := by
  induction given using List.reverseRecOn with
  | nil => rfl
  | append_singleton given e ih =>
    have last (m : ChangeNumber) :
        under m (given ++ [e]) = if m = e.1 then under m given ++ [e.2] else under m given := by
      rw [under_append]
      by_cases here : m = e.1 <;> simp [under, here, Ne.symm]
    rw [List.foldl_append, ih, List.map_append, List.map_singleton, eraseDups_snoc]
    simp only [List.foldl_cons, List.foldl_nil, last]
    by_cases there : e.1 ∈ given.map Prod.fst
    · rw [if_pos there, add_of_mem (nodup_eraseDups _) (List.mem_eraseDups.2 there)]
    · have new : e.1 ∉ (given.map Prod.fst).eraseDups := fun h => there (List.mem_eraseDups.1 h)
      have others : ∀ m ∈ (given.map Prod.fst).eraseDups, m ≠ e.1 := fun m h same => new (same ▸ h)
      rw [if_neg there, add_of_not_mem new, List.map_append, List.map_singleton, if_pos rfl,
        under_eq_nil_iff.2 there, List.nil_append]
      refine congrArg (· ++ _) (List.map_congr_left fun m h => ?_)
      rw [if_neg (others m h)]

end

/-- The changes that a factory contributes to, once for each entry. -/
def numbersOf (batch : List Change) (f : Factory) : List ChangeNumber :=
  match f.create batch with
  | .ok entries => entries.map Prod.fst
  | .error _ => batch.map Change.id

/-- What a factory contributes to one change: all it gave for it, or a failure for each time that
the change stands in the batch. -/
def own (n : ChangeNumber) (batch : List Change) (f : Factory) : List Contribution :=
  match f.create batch with
  | .ok entries => (entries.filter fun e => e.1 = n).map fun e => ⟨f.name, none, e.2⟩
  | .error _ => List.replicate ((batch.map Change.id).count n) (failure f.name)

section
variable (n : ChangeNumber) (batch : List Change)

theorem map_fst_ofFactory (f : Factory) :
    (ofFactory f batch).map Prod.fst = numbersOf batch f := by
  unfold ofFactory numbersOf
  cases f.create batch <;> simp [Function.comp_def]

theorem under_ofFactory (f : Factory) : under n (ofFactory f batch) = own n batch f := by
  unfold ofFactory own under
  cases f.create batch with
  | ok entries => simp [List.filter_map, Function.comp_def]
  | error reason =>
    have times : (batch.filter fun c => c.id = n).length = (batch.map Change.id).count n := by
      rw [List.count, List.countP_map, List.countP_eq_length_filter]
      rfl
    simp [List.filter_map, Function.comp_def, List.map_const', times]

theorem map_fst_ofFactories (factories : List Factory) :
    (factories.flatMap fun f => ofFactory f batch).map Prod.fst =
      factories.flatMap (numbersOf batch) := by
  rw [List.map_flatMap]
  exact congrArg (factories.flatMap ·) (funext (map_fst_ofFactory batch))

theorem under_ofFactories (factories : List Factory) :
    under n (factories.flatMap fun f => ofFactory f batch) = factories.flatMap (own n batch) := by
  induction factories with
  | nil => rfl
  | cons f factories ih =>
    rw [List.flatMap_cons, List.flatMap_cons, under_append, under_ofFactory, ih]

/-- A factory contributes to the changes that it has entries for. -/
theorem flatMap_own_eq_nil_iff (factories : List Factory) :
    factories.flatMap (own n batch) = [] ↔ n ∉ factories.flatMap (numbersOf batch) := by
  rw [← under_ofFactories, under_eq_nil_iff, map_fst_ofFactories]

theorem collect_eq (factories : List Factory) :
    collect factories batch = (factories.flatMap (numbersOf batch)).eraseDups.map fun n =>
      (n, factories.flatMap (own n batch)) := by
  rw [collect, foldl_add, map_fst_ofFactories]
  exact List.map_congr_left fun n _ => congrArg _ (under_ofFactories n batch factories)

theorem map_fst_collect (factories : List Factory) :
    (collect factories batch).map Prod.fst =
      (factories.flatMap (numbersOf batch)).eraseDups := by
  rw [collect_eq, List.map_map]
  exact List.map_id _

theorem forChange_collect (factories : List Factory) :
    forChange n (collect factories batch) = factories.flatMap (own n batch) := by
  rw [forChange, collect_eq]
  by_cases there : n ∈ factories.flatMap (numbersOf batch)
  · rw [find?_map_pair (List.mem_eraseDups.2 there)]
    rfl
  · have absent : n ∉ (factories.flatMap (numbersOf batch)).eraseDups :=
      fun h => there (List.mem_eraseDups.1 h)
    have none : ((factories.flatMap (numbersOf batch)).eraseDups.map fun m =>
        (m, factories.flatMap (own m batch))).find? (fun e => e.1 = n) = none := by
      rw [List.find?_eq_none]
      intro e there same
      obtain ⟨m, inside, rfl⟩ := List.mem_map.1 there
      exact absent (of_decide_eq_true same ▸ inside)
    rw [none, (flatMap_own_eq_nil_iff n batch factories).2 there]
    rfl

end

end Contribution

namespace ChangeReport
open Json

theorem toJson_without_plugins (r : ChangeReport) :
    { r with contributions := none }.toJson = r.toJson.without ["plugins"] := by
  have tags : (hashtagsField r.hashtags).filter (fun e => e.1 ∉ ["plugins"]) =
      hashtagsField r.hashtags := by
    unfold hashtagsField
    split <;> rfl
  simp only [toJson, without, List.filter_append, filter_optionalField, tags]
  rfl

theorem field?_plugins (r : ChangeReport) :
    r.toJson.field? "plugins" = r.contributions.map (listJson Contribution.toJson) := by
  cases given : r.contributions with
  | some cs => simp [toJson, given, optionalField, field?]
  | none =>
    have same : { r with contributions := none } = r := by rw [← given]
    rw [← same, toJson_without_plugins, field?_without (List.mem_singleton_self _), Option.map_none]

end ChangeReport

section
variable {w : World} {n : ChangeNumber} {pin : Option ObjectId}

theorem run_reportChange_of_error {e : StoreError}
    (failed : (getChange n pin).run w = (.error e, w)) (labels : List Label)
    (factories : List Factory) (options : OptionSet) :
    (reportChange labels factories options n pin).run w = (.error (.ofStore e), w) := by
  rw [reportChange, run_bind, run_mapError, failed]
  rfl

/-- The report of a snapshot has what the factories have for the number that was asked for. -/
theorem run_reportChange_of_ok {s : Snapshot} (found : (getChange n pin).run w = (.ok s, w))
    (labels : List Label) (factories : List Factory) (options : OptionSet) :
    (reportChange labels factories options n pin).run w =
      (if .getAccount ∈ w.failing then .error (.ofStore .lockPoisoned)
        else .ok (w.report labels s (factories.flatMap (Contribution.own n [s.state])) options),
        w) := by
  have snapshot : ((getChange n pin).mapError ApiError.ofStore).run w = (.ok s, w) :=
    run_mapError_eq_ok.2 found
  rw [reportChange, run_bind_of_ok snapshot, Contribution.forChange_collect, run_reportSnapshot_eq]

theorem contributions_report (w : World) (labels : List Label) (s : Snapshot) (options : OptionSet)
    (given cs : List Contribution) :
    (w.report labels s given options).contributions = some cs ↔ cs = given ∧ cs ≠ [] := by
  rw [World.report, ChangeReport.of]
  cases given with
  | nil => simp +contextual
  | cons c given => simp +contextual [eq_comm]

/-- Collecting lists the changes in the order of their first entries, each with the entries of one
factory after the other, and a failure of a factory in its place. A report shows the entries of
its change if there are any, and all else in it is the same whatever plugins there are. -/
theorem contributions_in_order (w : World) (labels : List Label) (options : OptionSet)
    (n : ChangeNumber) (pin : Option ObjectId) :
    (∀ (factories : List Factory) (batch : List Change),
      Contribution.collect factories batch =
        (factories.flatMap (Contribution.numbersOf batch)).eraseDups.map fun m =>
          (m, factories.flatMap (Contribution.own m batch))) ∧
    (∀ (factories : List Factory) (batch : List Change) (m : ChangeNumber),
      m ∈ (Contribution.collect factories batch).map Prod.fst ↔
        factories.flatMap (Contribution.own m batch) ≠ []) ∧
    (∀ e, (getChange n pin).run w = (.error e, w) → ∀ factories,
      (reportChange labels factories options n pin).run w = (.error (.ofStore e), w)) ∧
    ∀ s, (getChange n pin).run w = (.ok s, w) →
      ∃ (report : List Factory → ChangeReport) (rest : Json),
        (∀ factories, (reportChange labels factories options n pin).run w =
          (if .getAccount ∈ w.failing then .error (.ofStore .lockPoisoned)
            else .ok (report factories), w)) ∧
        (∀ factories cs, (report factories).contributions = some cs ↔
          cs = factories.flatMap (Contribution.own n [s.state]) ∧ cs ≠ []) ∧
        (∀ factories,
          (report factories).toJson.field? "plugins" =
            (report factories).contributions.map (listJson Contribution.toJson) ∧
          (report factories).toJson.without ["plugins"] = rest) ∧
        ∀ before f g after reason, g.create [s.state] = .error reason →
          (report (before ++ f :: after)).contributions.getD [] =
            before.flatMap (Contribution.own n [s.state]) ++
              (Contribution.own n [s.state] f ++ after.flatMap (Contribution.own n [s.state])) ∧
          (report (before ++ g :: after)).contributions.getD [] =
            before.flatMap (Contribution.own n [s.state]) ++
              (List.replicate ([s.state.id].count n) (.failure g.name) ++
                after.flatMap (Contribution.own n [s.state])) := by
  refine ⟨fun factories batch => Contribution.collect_eq batch factories,
    fun factories batch m => ?_,
    fun e failed factories => run_reportChange_of_error failed labels factories options,
    fun s found => ⟨fun factories =>
        w.report labels s (factories.flatMap (Contribution.own n [s.state])) options,
      (w.report labels s [] options).toJson,
      fun factories => run_reportChange_of_ok found labels factories options,
      fun factories cs => contributions_report w labels s options _ cs,
      fun factories => ⟨ChangeReport.field?_plugins _, ?_⟩,
      fun before f g after reason fails => ?_⟩⟩
  · rw [Ne, Contribution.flatMap_own_eq_nil_iff, not_not, Contribution.map_fst_collect,
      List.mem_eraseDups]
  · rw [← ChangeReport.toJson_without_plugins]
    rfl
  · have shown (given : List Contribution) :
        (w.report labels s given options).contributions.getD [] = given := by
      cases given <;> rfl
    have failed : Contribution.own n [s.state] g =
        List.replicate ([s.state.id].count n) (.failure g.name) := by
      rw [Contribution.own, fails]
      rfl
    rw [shown, shown, List.flatMap_append, List.flatMap_append, List.flatMap_cons,
      List.flatMap_cons, failed]
    exact ⟨rfl, rfl⟩

end

/-- A world in which the change with repeated patch sets is recorded. -/
def rebasedWorld : World :=
  { ownerWorld with
    store := .memory ⟨[⟨⟨1000⟩, some "owner", none, none, true, 0⟩], 1001, [], 1,
      [⟨⟨1⟩, [rebased]⟩]⟩ }

theorem broken_plugin_isolated :
    ∃ report : ChangeReport,
      (reportChange [] [⟨"broken", fun _ => .error "boom"⟩, .changeSize] .empty ⟨1⟩ none).run
        rebasedWorld = (.ok report, rebasedWorld) ∧
      report.contributions.getD [] = [.failure "broken",
        ⟨"change-size", none, [("lines", .ofUInt32 0), ("size", .text "XS")]⟩] := by
  obtain ⟨-, -, -, found⟩ := contributions_in_order rebasedWorld [] .empty ⟨1⟩ none
  obtain ⟨report, rest, runs, -, -, replaced⟩ := found rebased rfl
  refine ⟨_, runs _, ?_⟩
  exact (replaced [] .changeSize ⟨"broken", fun _ => .error "boom"⟩ [.changeSize] "boom" rfl).2

end CodeReview
