import Mathlib.Data.List.Nodup
import CodeReview.OutputOption
set_option autoImplicit false

/-!
Sets of output options as their readers make them. A list of names is read exactly when each is
the name of an option in letters of either case, and the set then has the options that are named.
-/
namespace CodeReview

theorem OutputOption.nodup_folded_names :
    (all.map fun o => o.name.toList.map Text.fold).Nodup := by
  decide

theorem OutputOption.exists_bit : ∀ i < 24, ∃ o ∈ all, o.bit = i := by
  decide

/-- A text names at most one option. -/
theorem OutputOption.ofName?_eq_some_iff {token : String} {o : OutputOption} :
    ofName? token = some o ↔ Text.sameFolded o.name token = true := by
  have ofFound {a : OutputOption} (found : ofName? token = some a) :
      Text.sameFolded a.name token = true := by
    simpa using List.find?_some found
  refine ⟨ofFound, fun names => ?_⟩
  obtain ⟨a, found⟩ := Option.isSome_iff_exists.1
    (List.find?_isSome.2 ⟨o, mem_all o, names⟩ : (ofName? token).isSome = true)
  have also := ofFound found
  rw [Text.sameFolded_iff] at names also
  obtain rfl := List.inj_on_of_nodup_map nodup_folded_names (mem_all a) (mem_all o)
    (also.trans names.symm)
  exact found

namespace OptionSet
variable {s t : OptionSet}

/-- A set is given by its options. -/
theorem ext (h : ∀ o, s.contains o = t.contains o) : s = t := by
  have bits : s.bits = t.bits := by
    refine BitVec.eq_of_getLsbD_eq fun i small => ?_
    obtain ⟨o, _, rfl⟩ := OutputOption.exists_bit i small
    exact h o
  cases s
  cases t
  exact congrArg mk bits

theorem contains_eq_testBit (s : OptionSet) (o : OutputOption) :
    s.contains o = s.mask.testBit o.bit := rfl

theorem insert_of_contains {o : OutputOption} (h : s.contains o = true) : s.insert o = s := by
  refine ext fun a => ?_
  rw [contains_insert]
  by_cases same : o = a
  · subst same
    simp [h]
  · simp [same]

theorem union_of_contains (h : ∀ o, t.contains o = true → s.contains o = true) :
    s.union t = s := by
  refine ext fun o => ?_
  rw [contains_union]
  cases there : t.contains o with
  | true => simp [h o there]
  | false => simp

theorem addNames_append (s : OptionSet) (tokens more : List String) :
    s.addNames (tokens ++ more) = s.addNames tokens >>= fun t => t.addNames more := by
  induction tokens generalizing s with
  | nil => rfl
  | cons token tokens ih =>
    rw [List.cons_append, addNames, addNames]
    cases OutputOption.ofName? token with
    | none => rfl
    | some o => exact ih _

/-- Names are added exactly when each of them names an option. -/
theorem exists_addNames_iff {tokens : List String} :
    (∃ t, s.addNames tokens = .ok t) ↔
      ∀ token ∈ tokens, ∃ o : OutputOption, Text.sameFolded o.name token = true := by
  induction tokens generalizing s with
  | nil => exact ⟨fun _ => by simp, fun _ => ⟨s, rfl⟩⟩
  | cons token tokens ih =>
    rw [List.forall_mem_cons, addNames]
    cases named : OutputOption.ofName? token with
    | none =>
      constructor
      · rintro ⟨t, failed⟩
        cases failed
      · rintro ⟨⟨o, names⟩, _⟩
        rw [OutputOption.ofName?_eq_some_iff.2 names] at named
        cases named
    | some o =>
      have names := OutputOption.ofName?_eq_some_iff.1 named
      exact ih.trans ⟨fun all => ⟨⟨o, names⟩, all⟩, And.right⟩

theorem contains_addNames {tokens : List String} (h : s.addNames tokens = .ok t)
    (o : OutputOption) :
    t.contains o = true ↔
      s.contains o = true ∨ ∃ token ∈ tokens, Text.sameFolded o.name token = true := by
  induction tokens generalizing s with
  | nil =>
    cases h
    simp
  | cons token tokens ih =>
    rw [addNames] at h
    cases named : OutputOption.ofName? token with
    | none =>
      rw [named] at h
      cases h
    | some a =>
      rw [named] at h
      have here : a = o ↔ Text.sameFolded o.name token = true := by
        rw [← OutputOption.ofName?_eq_some_iff, named, Option.some.injEq]
      rw [ih h, contains_insert, Bool.or_eq_true, decide_eq_true_iff, here, or_assoc,
        List.exists_mem_cons_iff]

/-- Naming an option again changes nothing. -/
theorem addNames_again {token : String} {tokens : List String} (there : token ∈ tokens)
    (more : List String) :
    s.addNames (tokens ++ token :: more) = s.addNames (tokens ++ more) := by
  rw [addNames_append, addNames_append]
  cases first : s.addNames tokens with
  | error e => rfl
  | ok t =>
    obtain ⟨o, names⟩ := exists_addNames_iff.1 ⟨t, first⟩ token there
    have kept : t.insert o = t :=
      insert_of_contains ((contains_addNames first o).2 (.inr ⟨token, there, names⟩))
    show t.addNames (token :: more) = t.addNames more
    rw [addNames, OutputOption.ofName?_eq_some_iff.2 names]
    dsimp only
    rw [kept]

end OptionSet

end CodeReview
