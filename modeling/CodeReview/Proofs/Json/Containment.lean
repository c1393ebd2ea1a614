import Mathlib.Data.List.Forall2
import Mathlib.Data.List.Induction
import CodeReview.Proofs.Json.Record
set_option autoImplicit false

/-!
Containment of JSON values. An object contains another one whose fields it has, each with a value
that contains the other's; a name that is repeated counts with its last value. Lists are compared
place by place, and everything else by equality. Written records contain each other field by
field, and lists of entries by name entry by entry.
-/
namespace CodeReview.Json

inductive ContainedIn : Json → Json → Prop where
  | equal (j : Json) : ContainedIn j j
  | array {xs ys : List Json} (items : List.Forall₂ ContainedIn xs ys) :
    ContainedIn (.array xs) (.array ys)
  | object {fs gs : List (String × Json)}
    (names : ∀ name x, field? name (.object fs) = some x →
      ∃ y, field? name (.object gs) = some y)
    (values : ∀ name x y, field? name (.object fs) = some x →
      field? name (.object gs) = some y → ContainedIn x y) : ContainedIn (.object fs) (.object gs)

section
variable {name : String} {x y : Json} {fs gs hs ks : List (String × Json)}
  {names more : List String}

theorem mem_of_field? (h : field? name (.object fs) = some x) : (name, x) ∈ fs := by
  obtain ⟨f, found, rfl⟩ := Option.map_eq_some_iff.1 h
  have here : f.1 = name := by simpa using List.find?_some found
  rw [← here]
  exact List.mem_reverse.1 (List.mem_of_find?_eq_some found)

theorem field?_of_mem (nodup : (gs.map Prod.fst).Nodup) (h : (name, y) ∈ gs) :
    field? name (.object gs) = some y := by
  rw [field?, ← List.head?_filter, List.filter_reverse, filter_name nodup h]
  rfl

theorem onlyField_of_nodup (nodup : (fs.map Prod.fst).Nodup) :
    onlyField name fs = some (field? name (.object fs)) := by
  cases found : field? name (.object fs) with
  | some x => exact onlyField_of_mem nodup (mem_of_field? found)
  | none =>
    have missing : (fs.filter fun f => f.1 = name) = [] := by
      refine List.filter_eq_nil_iff.2 fun f there named => ?_
      obtain rfl : f.1 = name := by simpa using named
      have : field? f.1 (.object fs) = some f.2 := field?_of_mem nodup there
      rw [found] at this
      cases this
    rw [onlyField, missing]

/-- Where no name is repeated it is enough to find each field. -/
theorem contained_object (nodup : (gs.map Prod.fst).Nodup)
    (h : ∀ f ∈ fs, ∃ y, (f.1, y) ∈ gs ∧ ContainedIn f.2 y) :
    ContainedIn (.object fs) (.object gs) := by
  refine .object (fun name x found => ?_) fun name x y found other => ?_
  · obtain ⟨y, there, -⟩ := h _ (mem_of_field? found)
    exact ⟨y, field?_of_mem nodup there⟩
  · obtain ⟨z, there, contained⟩ := h _ (mem_of_field? found)
    have same : field? name (.object gs) = some z := field?_of_mem nodup there
    rw [same] at other
    cases other
    exact contained

/-- The fields are found among others, whose names are some of a list in its order. -/
structure Extends (names : List String) (fs gs : List (String × Json)) : Prop where
  fields : ∀ f ∈ fs, ∃ y, (f.1, y) ∈ gs ∧ ContainedIn f.2 y
  named : (gs.map Prod.fst).Sublist names

namespace Extends

theorem contained (names : List String) (nodup : names.Nodup) (h : Extends names fs gs) :
    ContainedIn (.object fs) (.object gs) :=
  contained_object (h.named.nodup nodup) h.fields

theorem same (fs : List (String × Json)) (h : fs.map Prod.fst = names) : Extends names fs fs :=
  ⟨fun f there => ⟨f.2, there, .equal f.2⟩, h ▸ List.Sublist.refl _⟩

theorem append (h : Extends names fs gs) (k : Extends more hs ks) :
    Extends (names ++ more) (fs ++ hs) (gs ++ ks) where
  fields f there := by
    rcases List.mem_append.1 there with there | there
    · obtain ⟨y, found, contained⟩ := h.fields f there
      exact ⟨y, List.mem_append_left ks found, contained⟩
    · obtain ⟨y, found, contained⟩ := k.fields f there
      exact ⟨y, List.mem_append_right gs found, contained⟩
  named := by
    rw [List.map_append]
    exact h.named.append k.named

theorem field (name : String) (h : ContainedIn x y) : Extends [name] [(name, x)] [(name, y)] where
  fields f there := by
    obtain rfl := List.mem_singleton.1 there
    exact ⟨y, List.mem_singleton_self _, h⟩
  named := List.Sublist.refl _

/-- A field that has a value in the larger record wherever it has one in the smaller. -/
theorem optional {α β : Type} (name : String) {f : α → Json} {g : β → Json} {o : Option α}
    {p : Option β} (h : ∀ a, o = some a → ∃ b, p = some b ∧ ContainedIn (f a) (g b)) :
    Extends [name] (optionalField name f o) (optionalField name g p) where
  fields e there := by
    cases o with
    | none => cases there
    | some a =>
      obtain ⟨b, rfl, contained⟩ := h a rfl
      obtain rfl := List.mem_singleton.1 there
      exact ⟨g b, List.mem_singleton_self _, contained⟩
  named := by
    cases p with
    | none => exact List.nil_sublist _
    | some b => exact List.Sublist.refl _

theorem unchanged {α : Type} (name : String) (f : α → Json) (o : Option α) :
    Extends [name] (optionalField name f o) (optionalField name f o) :=
  optional name fun a e => ⟨a, e, .equal (f a)⟩

theorem absent {β : Type} (name : String) (g : β → Json) (p : Option β) :
    Extends [name] [] (optionalField name g p) :=
  optional (f := g) (o := none) name nofun

theorem map {α β γ : Type} (name : String) {f : β → Json} {g : γ → Json} {u : α → β} {v : α → γ}
    (o : Option α) (h : ∀ a, ContainedIn (f (u a)) (g (v a))) :
    Extends [name] (optionalField name f (o.map u)) (optionalField name g (o.map v)) := by
  refine .optional name fun b e => ?_
  obtain ⟨a, rfl, rfl⟩ := Option.map_eq_some_iff.1 e
  exact ⟨v a, rfl, h a⟩

/-- A field that is written on demand. -/
theorem demand {β γ : Type} (name : String) {f : β → Json} {g : γ → Json} {p q : Bool} {b : β}
    {c : γ} (h : p = true → q = true) (contained : ContainedIn (f b) (g c)) :
    Extends [name] (optionalField name f (if p then some b else none))
      (optionalField name g (if q then some c else none)) := by
  refine .optional name fun a e => ?_
  cases p with
  | false => cases e
  | true =>
    cases e
    exact ⟨c, by rw [h rfl, if_pos rfl], contained⟩

/-- The same for a field that may be left out on demand too. -/
theorem demand_optional {α : Type} (name : String) (f : α → Json) (o : Option α) {p q : Bool}
    (h : p = true → q = true) :
    Extends [name] (optionalField name f (if p then o else none))
      (optionalField name f (if q then o else none)) := by
  cases o with
  | none =>
    rw [ite_self, ite_self]
    exact unchanged name f none
  | some a => exact demand name h (.equal (f a))

end Extends

end

/-- The object less all fields of these names. -/
def without (names : List String) : Json → Json
  | .object fields => .object (fields.filter fun f => f.1 ∉ names)
  | j => j

theorem field?_without {names : List String} {name : String} (out : name ∈ names) (j : Json) :
    field? name (without names j) = none := by
  cases j with
  | object fields =>
    refine Option.map_eq_none_iff.2 (List.find?_eq_none.2 fun e there same => ?_)
    have kept := (List.mem_filter.1 (List.mem_reverse.1 there)).2
    exact of_decide_eq_true kept (of_decide_eq_true same ▸ out)
  | _ => rfl

theorem filter_optionalField {α : Type} (names : List String) (name : String) (f : α → Json)
    (o : Option α) :
    (optionalField name f o).filter (fun e => e.1 ∉ names) =
      optionalField name f (if name ∈ names then none else o) := by
  by_cases out : name ∈ names <;> cases o <;> simp [optionalField, out]

section
variable {α β : Type} {k name : String} {a b : β} {entries : List (String × β)}

theorem map_fst_setEntry (name : String) (a : β) (entries : List (String × β)) :
    (setEntry name a entries).map Prod.fst =
      if name ∈ entries.map Prod.fst then entries.map Prod.fst
      else entries.map Prod.fst ++ [name] := by
  induction entries with
  | nil => rfl
  | cons e entries ih =>
    rw [setEntry]
    by_cases here : e.1 = name
    · rw [if_pos here]
      simp [here]
    · have ne : name ≠ e.1 := fun same => here same.symm
      rw [if_neg here, List.map_cons, ih, List.map_cons]
      by_cases there : name ∈ entries.map Prod.fst
      · rw [if_pos there, if_pos (List.mem_cons_of_mem _ there)]
      · rw [if_neg there, if_neg (by simpa [ne] using there), List.cons_append]

theorem setEntry_of_new (new : name ∉ entries.map Prod.fst) :
    setEntry name a entries = entries ++ [(name, a)] := by
  induction entries with
  | nil => rfl
  | cons e entries ih =>
    rw [List.map_cons, List.mem_cons, not_or] at new
    rw [setEntry, if_neg (Ne.symm new.1), ih new.2, List.cons_append]

theorem nodup_setEntry (h : (entries.map Prod.fst).Nodup) (name : String) (a : β) :
    ((setEntry name a entries).map Prod.fst).Nodup := by
  rw [map_fst_setEntry]
  split
  · exact h
  · next new => exact List.nodup_append.2 ⟨h, List.pairwise_singleton _ _, by
      rintro n there m only rfl
      exact new (List.mem_singleton.1 only ▸ there)⟩

/-- A name that is set has the new value, and all others keep theirs. -/
theorem mem_setEntry (h : (entries.map Prod.fst).Nodup) :
    (k, b) ∈ setEntry name a entries ↔ if name = k then a = b else (k, b) ∈ entries := by
  induction entries with
  | nil =>
    rw [setEntry, List.mem_singleton, Prod.mk.injEq]
    by_cases here : name = k
    · simp [here, eq_comm]
    · simp [here, Ne.symm here]
  | cons e entries ih =>
    obtain ⟨n, v⟩ := e
    obtain ⟨new, nodup⟩ := List.nodup_cons.1 h
    have absent : ∀ c, (n, c) ∉ entries := fun c there => new (List.mem_map.2 ⟨(n, c), there, rfl⟩)
    rw [setEntry]
    by_cases same : n = name
    · subst same
      rw [if_pos rfl, List.mem_cons, List.mem_cons, Prod.mk.injEq, Prod.mk.injEq]
      by_cases here : n = k
      · subst here
        simp [absent, eq_comm]
      · simp [here, Ne.symm here]
    · rw [if_neg same, List.mem_cons, List.mem_cons, Prod.mk.injEq, ih nodup]
      by_cases here : name = k
      · simp [here, Ne.symm (here ▸ same : n ≠ k)]
      · simp [here]

/-- Values by name; a repeated name keeps the last value. -/
def byName (name : α → String) (value : α → β) (items : List α) : List (String × β) :=
  items.foldl (fun found a => setEntry (name a) (value a) found) []

variable {label : α → String} {value : α → β} {items : List α}

theorem byName_snoc (a : α) :
    byName label value (items ++ [a]) =
      setEntry (label a) (value a) (byName label value items) := by
  rw [byName, List.foldl_append]
  rfl

/-- Where no name is repeated, the values stay in the order of the items. -/
theorem byName_of_nodup (h : (items.map label).Nodup) :
    byName label value items = items.map fun a => (label a, value a) := by
  induction items using List.reverseRecOn with
  | nil => rfl
  | append_singleton items a ih =>
    rw [List.map_append, List.nodup_append] at h
    obtain ⟨before, -, apart⟩ := h
    have new : label a ∉ (items.map fun a => (label a, value a)).map Prod.fst := by
      rw [List.map_map]
      exact fun there => apart _ there _ (List.mem_singleton.2 rfl) rfl
    rw [byName_snoc, ih before, setEntry_of_new new, List.map_append, List.map_singleton]

theorem nodup_byName : ((byName label value items).map Prod.fst).Nodup := by
  induction items using List.reverseRecOn with
  | nil => exact .nil
  | append_singleton items a ih =>
    rw [byName_snoc]
    exact nodup_setEntry ih _ _

theorem mem_byName :
    (k, b) ∈ byName label value items ↔
      ∃ a, items.reverse.find? (fun a => label a = k) = some a ∧ value a = b := by
  induction items using List.reverseRecOn with
  | nil => simp [byName]
  | append_singleton items a ih =>
    rw [byName_snoc, mem_setEntry nodup_byName, List.reverse_append, List.reverse_singleton,
      List.singleton_append, List.find?_cons]
    by_cases here : label a = k
    · simp [here]
    · simp [here, ih]

end

end CodeReview.Json
