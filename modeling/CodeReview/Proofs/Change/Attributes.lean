import CodeReview.Proofs.Change.Plain
import CodeReview.Proofs.Store.Runs
set_option autoImplicit false

/-!
Contributions as text. The attributes of a plugin stand in one object with the name and the
message, so a contribution is read back from its text as long as no attribute has the name of one
of these two and the values are not nested deeper than a reader goes.
-/
namespace CodeReview.Contribution

/-- The attributes are a map: no name twice, in any object, and the values plain. -/
def IsMap (attributes : Attributes) : Prop :=
  (Json.object attributes).Ordered ∧ (Json.object attributes).plain = true

/-- Reading the text of the contribution gives it back. -/
def ReadsBack (c : Contribution) : Prop :=
  (Json.parse c.toJson.compact).bind (ofJson? 0) = some c

variable {c : Contribution}

theorem readsBack_iff_ofJson? (plain : c.Plain) : ReadsBack c ↔ ofJson? 0 c.toJson = some c := by
  rw [ReadsBack, Json.parse_compact plain.toJson, Option.bind_some]

/-- Whatever is read as an attribute is called otherwise than the other two fields, and the object
is not nested too deep. -/
theorem ofJson?_eq_some {around : Nat} {j : Json} (h : ofJson? around j = some c) :
    around + j.depth ≤ Json.deepest ∧ ∀ a ∈ c.attributes, a.1 ≠ "name" ∧ a.1 ≠ "message" := by
  cases j with
  | object fields =>
    simp only [ofJson?, Option.bind_eq_bind, Option.bind_eq_some_iff] at h
    obtain ⟨_, whole, r, -, name, -, message, -, made⟩ := h
    cases made
    refine ⟨?_, fun a there => ?_⟩
    · have fits := (Option.ite_none_right_eq_some.1 whole).1
      simp only [Bool.and_eq_true, decide_eq_true_iff] at fits
      exact fits.2
    · have named := List.mem_map_of_mem (f := Prod.fst) (Json.mem_sortFields there)
      rw [Json.map_fst_sortedFields] at named
      obtain ⟨b, other, same⟩ := List.mem_map.1 named
      rw [← same]
      simpa using (List.mem_filter.1 other).2
  | _ => cases h

theorem depth_toJson (c : Contribution) : c.toJson.depth = (Json.object c.attributes).depth := by
  rw [toJson]
  cases c.message <;> simp [Json.optionalField, Json.depth, Json.depthFields]

/-- With no attribute called as they are, the name and the message stand alone. -/
theorem record?_toJson (apart : ∀ a ∈ c.attributes, a.1 ≠ "name" ∧ a.1 ≠ "message") :
    c.toJson.record? ["name", "message"] =
      some ⟨[("name", some (.text c.name)), ("message", c.message.map .text)], false⟩ := by
  have absent (name : String) (h : ∀ a ∈ c.attributes, a.1 ≠ name) :
      (c.attributes.filter fun f => f.1 = name) = [] :=
    List.filter_eq_nil_iff.2 fun a there => by simpa using h a there
  have name := absent "name" fun a there => (apart a there).1
  have message := absent "message" fun a there => (apart a there).2
  cases said : c.message <;>
    simp [toJson, Json.record?, Json.onlyField, Json.optionalField, said, name, message]

theorem ofJson?_toJson (map : IsMap c.attributes)
    (apart : ∀ a ∈ c.attributes, a.1 ≠ "name" ∧ a.1 ≠ "message")
    (shallow : (Json.object c.attributes).depth ≤ Json.deepest) : ofJson? 0 c.toJson = some c := by
  have whole : Json.whole? 0 c.toJson = some c.toJson := by
    have readable := Json.readable_of_plain (Plain.toJson map.2)
    rw [Json.whole?, readable, depth_toJson, Nat.zero_add, Bool.true_and, decide_eq_true shallow]
    rfl
  have others : (("name", Json.text c.name) :: (Json.optionalField "message" .text c.message
      ++ c.attributes)).filter (fun f => f.1 ≠ "name" && f.1 ≠ "message") = c.attributes := by
    have kept : (c.attributes.filter fun f => f.1 ≠ "name" && f.1 ≠ "message") = c.attributes :=
      List.filter_eq_self.2 fun a there => by simpa using apart a there
    cases c.message <;> simpa [Json.optionalField] using kept
  have sorted := Json.sorted_of_ordered map.1
  have record := record?_toJson apart
  rw [toJson] at whole record
  rw [toJson, ofJson?, whole, record, others]
  dsimp only
  rw [sorted]
  obtain ⟨name, said, attributes⟩ := c
  cases said <;> rfl

theorem readsBack_iff (map : IsMap c.attributes) :
    ReadsBack c ↔ (∀ a ∈ c.attributes, a.1 ≠ "name" ∧ a.1 ≠ "message") ∧
      (Json.object c.attributes).depth ≤ Json.deepest := by
  rw [readsBack_iff_ofJson? map.2]
  constructor
  · intro h
    obtain ⟨shallow, apart⟩ := ofJson?_eq_some h
    rw [Nat.zero_add, depth_toJson] at shallow
    exact ⟨apart, shallow⟩
  · rintro ⟨apart, shallow⟩
    exact ofJson?_toJson map apart shallow

theorem failure_readsBack (name : String) : ReadsBack (failure name) := by
  have map : IsMap (failure name).attributes := ⟨⟨.nil, trivial⟩, rfl⟩
  refine (readsBack_iff map).2 ⟨fun a there => ?_, ?_⟩
  · cases there
  · show 1 ≤ Json.deepest
    decide

/-- What a plugin contributes is read back just when none of its attributes is called `name` or
`message` and the attributes are not nested too deep, and that a plugin failed is always read
back. -/
theorem contribution_read_back_iff (f : Factory) (batch : List Change) :
    (∀ entries, f.create batch = .ok entries → ∀ e ∈ entries, IsMap e.2 →
      (e.1, ⟨f.name, none, e.2⟩) ∈ ofFactory f batch ∧
        (ReadsBack ⟨f.name, none, e.2⟩ ↔
          (∀ a ∈ e.2, a.1 ≠ "name" ∧ a.1 ≠ "message") ∧
            (Json.object e.2).depth ≤ Json.deepest)) ∧
      ∀ reason, f.create batch = .error reason →
        ∀ e ∈ ofFactory f batch, e.2 = failure f.name ∧ ReadsBack e.2 := by
  constructor
  · intro entries made e there map
    refine ⟨?_, readsBack_iff map⟩
    rw [ofFactory, made]
    exact List.mem_map_of_mem there
  · intro reason failed e there
    rw [ofFactory, failed] at there
    obtain ⟨change, -, rfl⟩ := List.mem_map.1 there
    exact ⟨rfl, failure_readsBack f.name⟩

/-- Attributes with a list of objects inside. -/
def warnings : Attributes :=
  [("count", .int 1), ("files", .array [.object [("line", .int 7), ("name", .text "a.c")]])]

theorem isMap_warnings : IsMap warnings := by
  have names : (warnings.map Prod.fst).Pairwise (· < ·) := by decide
  have inside : ["line", "name"].Pairwise (· < ·) := by decide
  exact ⟨⟨names, trivial, ⟨⟨inside, trivial, trivial, trivial⟩, trivial⟩, trivial⟩, rfl⟩

theorem warnings_read_back :
    (IsMap warnings ∧ ReadsBack ⟨"lint", none, warnings⟩) ∧
      (Store.draft.id, failure "lint") ∈
        ofFactory ⟨"lint", fun _ => .error "no compiler"⟩ [Store.draft] ∧
      ReadsBack (failure "lint") := by
  have listed := (contribution_read_back_iff ⟨"lint", fun _ => .ok [(⟨7⟩, warnings)]⟩ []).1
    _ rfl _ List.mem_cons_self isMap_warnings
  have failed := (contribution_read_back_iff ⟨"lint", fun _ => .error "no compiler"⟩
    [Store.draft]).2 _ rfl _ List.mem_cons_self
  have apart : ∀ a ∈ warnings, a.1 ≠ "name" ∧ a.1 ≠ "message" := by decide
  exact ⟨⟨isMap_warnings, listed.2.2 ⟨apart, by decide⟩⟩, List.mem_cons_self, failed.2⟩

/-- An attribute with the name of the field for the name of the plugin. -/
def namesake : Attributes :=
  [("name", .text "a.c")]

/-- A plugin may contribute the attribute, but then its contribution cannot be read. With an
attribute for the message it is taken for a failure. -/
theorem namesake_unread :
    (Store.draft.id, ⟨"lint", none, namesake⟩) ∈
        ofFactory ⟨"lint", fun batch => .ok (batch.map fun c => (c.id, namesake))⟩ [Store.draft] ∧
      IsMap namesake ∧
      (⟨"lint", none, namesake⟩ : Contribution).toJson.compact =
        "\x7b\"name\":\"lint\",\"name\":\"a.c\"\x7d" ∧
      (Json.parse (⟨"lint", none, namesake⟩ : Contribution).toJson.compact).bind (ofJson? 0) =
        none ∧
      (⟨"lint", none, [("message", .text "Something went wrong in plugin: lint")]⟩ :
        Contribution).toJson.compact = (failure "lint").toJson.compact := by
  have map : IsMap namesake := ⟨⟨List.pairwise_singleton .., trivial, trivial⟩, rfl⟩
  have plain : Plain ⟨"lint", none, namesake⟩ := map.2
  have unread : ofJson? 0 (⟨"lint", none, namesake⟩ : Contribution).toJson = none := rfl
  refine ⟨List.mem_cons_self, map, by decide +kernel, ?_, by decide +kernel⟩
  rw [Json.parse_compact plain.toJson]
  exact unread

end CodeReview.Contribution
