import CodeReview.Proofs.Group.MembersInput
import CodeReview.Proofs.Json.Containment
import CodeReview.Proofs.Json.Sorted
set_option autoImplicit false

/-!
Whom a body names. The members that it lists come first and the one that it names besides comes
last. An empty text names nobody when it stands alone, but it is kept where it is listed.
-/
namespace CodeReview.MembersInput
open Text

/-- The listed members, none when there is no list. -/
inductive Lists : Option Json → List String → Prop
  | absent : Lists none []
  | listed (members : List String) : Lists (some (listJson .text members)) members

/-- The member named besides, if there is one. -/
inductive Adds : Option Json → Option String → Prop
  | absent : Adds none none
  | null : Adds (some .null) none
  | text (s : String) : Adds (some (.text s)) (some s)

/-- The members that a value lists, and the one that it names besides. -/
inductive Names : Json → List String → Option String → Prop
  | null : Names .null [] none
  | text (s : String) : Names (.text s) [] (some s)
  | object {fields : List (String × Json)} {members : List String} {one : Option String}
    (lists : Lists (Json.field? "members" (.object fields)) members)
    (adds : Adds (Json.field? "_one_member" (.object fields)) one) :
    Names (.object fields) members one
  | array {items : List Json} {members : List String} {one : Option String}
    (few : items.length ≤ 2) (lists : Lists items[0]? members) (adds : Adds items[1]? one) :
    Names (.array items) members one

/-- The members that a body lists, and the one that it names besides. A blank body has neither. -/
inductive Named (body : List UInt8) : List String → Option String → Prop
  | blank (blank : body.all isBlankByte = true) : Named body [] none
  | value {cs : List Char} {j : Json} {members : List String} {one : Option String}
    (filled : body.all isBlankByte = false) (text : Utf8.decode? body = some cs)
    (read : Json.parseValue (String.ofList cs) = some j) (names : Names j members one) :
    Named body members one

theorem text?_eq_some {j : Json} {s : String} : Json.text? j = some s ↔ j = .text s := by
  cases j <;> simp [Json.text?]

theorem list?_text?_eq_some {j : Json} {members : List String} :
    Json.list? Json.text? j = some members ↔ j = listJson .text members := by
  constructor
  · intro read
    cases j with
    | array items =>
      rw [Json.list?] at read
      refine congrArg Json.array ?_
      induction items generalizing members with
      | nil =>
        cases read
        rfl
      | cons item items ih =>
        rw [List.mapM_cons] at read
        obtain ⟨s, first, rest⟩ := Option.bind_eq_some_iff.1 read
        obtain ⟨others, later, same⟩ := Option.bind_eq_some_iff.1 rest
        cases same
        rw [text?_eq_some.1 first, ih later, List.map_cons]
    | _ => cases read
  · rintro rfl
    exact Json.list?_map members Json.text?_text

theorem withDefault_eq_some_lists {r : Json.Record} {name : String} {members : List String} :
    r.withDefault name (Json.list? Json.text?) [] = some members ↔ Lists (r.cell name) members := by
  rw [Json.Record.withDefault]
  cases r.cell name with
  | none =>
    constructor
    · intro same
      cases same
      exact .absent
    · rintro ⟨⟩
      rfl
  | some j =>
    refine list?_text?_eq_some.trans ⟨?_, ?_⟩
    · rintro rfl
      exact .listed members
    · rintro ⟨⟩
      rfl

theorem withDefault_eq_some_adds {r : Json.Record} {name : String} {one : Option String} :
    r.withDefault name (Json.option? Json.text?) none = some one ↔ Adds (r.cell name) one := by
  rw [Json.Record.withDefault]
  cases r.cell name with
  | none =>
    constructor
    · intro same
      cases same
      exact .absent
    · rintro ⟨⟩
      rfl
  | some j =>
    constructor
    · intro read
      cases j with
      | null =>
        cases read
        exact .null
      | text s =>
        cases read
        exact .text s
      | _ => cases read
    · rintro ⟨⟩ <;> rfl

theorem ofJson?_eq_some {j : Json} {i : MembersInput} :
    ofJson? j = some i ↔ ∃ r, j.record? ["members", "_one_member"] = some r ∧
      Lists (r.cell "members") i.members ∧ Adds (r.cell "_one_member") i.oneMember := by
  simp only [ofJson?, Option.bind_eq_bind, Option.bind_eq_some_iff, withDefault_eq_some_lists,
    withDefault_eq_some_adds]
  refine exists_congr fun r => and_congr_right fun _ => ?_
  constructor
  · rintro ⟨members, lists, one, adds, same⟩
    cases same
    exact ⟨lists, adds⟩
  · rintro ⟨lists, adds⟩
    exact ⟨i.members, lists, i.oneMember, adds, rfl⟩

theorem record?_fields {fields : List (String × Json)} (nodup : (fields.map Prod.fst).Nodup) :
    (Json.object fields).record? ["members", "_one_member"] =
      some ⟨[("members", Json.field? "members" (.object fields)),
        ("_one_member", Json.field? "_one_member" (.object fields))], false⟩ := by
  simp [Json.record?, Json.onlyField_of_nodup nodup]

theorem record?_items {items : List Json} {r : Json.Record} :
    (Json.array items).record? ["members", "_one_member"] = some r ↔
      items.length ≤ 2 ∧ r = ⟨[("members", items[0]?), ("_one_member", items[1]?)], true⟩ := by
  have cells : Json.zipCells ["members", "_one_member"] items =
      [("members", items[0]?), ("_one_member", items[1]?)] := by
    match items with
    | [] => rfl
    | [_] => rfl
    | _ :: _ :: _ => rfl
  rw [Json.record?, Option.ite_none_right_eq_some, cells, Option.some.injEq, eq_comm (b := r)]
  rfl

theorem toList_text (s : String) : toList ⟨[], some s⟩ = if s = "" then [] else [s] := by
  by_cases blank : s = "" <;> simp [toList, Option.filter, blank]

theorem ofValue_of_record {j : Json} {tokens : List String} (null : j ≠ .null)
    (text : ∀ s, j ≠ .text s) :
    ofValue j = .ok tokens ↔ ∃ i, ofJson? j = some i ∧ tokens = i.toList := by
  rw [ofValue]
  · cases ofJson? j with
    | none => simp
    | some i => simp [eq_comm]
  · exact null
  · exact text

theorem ofValue_eq_ok {j : Json} {tokens : List String}
    (distinct : ∀ fields, j = .object fields → (fields.map Prod.fst).Nodup) :
    ofValue j = .ok tokens ↔
      ∃ members one, Names j members one ∧ tokens = toList ⟨members, one⟩ := by
  constructor
  · intro read
    cases j with
    | null =>
      cases read
      exact ⟨_, _, .null, rfl⟩
    | text s =>
      cases read
      exact ⟨_, _, .text s, (toList_text s).symm⟩
    | array items =>
      obtain ⟨i, made, rfl⟩ := (ofValue_of_record (by simp) (by simp)).1 read
      obtain ⟨r, record, lists, adds⟩ := ofJson?_eq_some.1 made
      obtain ⟨few, rfl⟩ := record?_items.1 record
      exact ⟨_, _, .array few lists adds, rfl⟩
    | object fields =>
      obtain ⟨i, made, rfl⟩ := (ofValue_of_record (by simp) (by simp)).1 read
      obtain ⟨r, record, lists, adds⟩ := ofJson?_eq_some.1 made
      rw [record?_fields (distinct fields rfl)] at record
      cases record
      exact ⟨_, _, .object lists adds, rfl⟩
    | _ => cases read
  · rintro ⟨members, one, names, rfl⟩
    cases names with
    | null => rfl
    | text s => exact congrArg Except.ok (toList_text s).symm
    | object lists adds =>
      refine (ofValue_of_record (by simp) (by simp)).2 ⟨⟨members, one⟩, ?_, rfl⟩
      exact ofJson?_eq_some.2 ⟨_, record?_fields (distinct _ rfl), lists, adds⟩
    | array few lists adds =>
      refine (ofValue_of_record (by simp) (by simp)).2 ⟨⟨members, one⟩, ?_, rfl⟩
      exact ofJson?_eq_some.2 ⟨_, record?_items.2 ⟨few, rfl⟩, lists, adds⟩

/-- A free-form value has no name twice. -/
theorem nodup_of_parseValue {text : String} {j : Json} (read : Json.parseValue text = some j) :
    ∀ fields, j = .object fields → (fields.map Prod.fst).Nodup := by
  rintro fields rfl
  obtain ⟨raw, -, same⟩ := Option.map_eq_some_iff.1 read
  cases raw with
  | object others =>
    cases same
    exact Json.nodup_of_ascending (Json.ascending_sortFields _)
  | _ => cases same

theorem parse_eq_ok {body : List UInt8} {tokens : List String} :
    parse body = .ok tokens ↔
      ∃ members one, Named body members one ∧ tokens = toList ⟨members, one⟩ := by
  rw [parse]
  constructor
  · intro read
    split at read
    · next blank =>
      cases read
      exact ⟨_, _, .blank blank, rfl⟩
    · next filled =>
      split at read
      · next j value =>
        obtain ⟨cs, text, value⟩ := Option.bind_eq_some_iff.1 value
        obtain ⟨members, one, names, same⟩ := (ofValue_eq_ok (nodup_of_parseValue value)).1 read
        exact ⟨members, one, .value (by simpa using filled) text value names, same⟩
      · cases read
  · rintro ⟨members, one, named, rfl⟩
    cases named with
    | blank blank => exact if_pos blank
    | value filled text value names =>
      rw [if_neg (by simp [filled]), text, Option.bind_some, value]
      exact (ofValue_eq_ok (nodup_of_parseValue value)).2 ⟨members, one, names, rfl⟩

/-- The text of a value is a body that names whom the value names. -/
theorem Named.of_text {text : String} {j : Json} {members : List String} {one : Option String}
    (written : Json.parse text = some j) (whole : Json.whole? 0 j = some j)
    (names : Names j.sorted members one) : Named (Utf8.bytes text) members one := by
  refine .value (filled_of_parse written) (Utf8.decode?_bytes text) ?_ names
  rw [String.ofList_toList, Json.parseValue, written, Option.bind_some, whole]
  rfl

theorem toList_eq_filter_iff {members : List String} {one : Option String} :
    toList ⟨members, one⟩ = (members ++ one.toList).filter (· ≠ "") ↔ "" ∉ members := by
  have last : (one.filter (· ≠ "")).toList = one.toList.filter (· ≠ "") := by
    cases one with
    | none => rfl
    | some s => by_cases blank : s = "" <;> simp [Option.filter, blank]
  rw [toList, List.filter_append, last, List.append_left_inj, eq_comm, List.filter_eq_self]
  simp only [ne_eq, decide_not, Bool.not_eq_eq_eq_not, Bool.not_true, decide_eq_false_iff_not]
  exact ⟨fun none there => none _ there rfl, fun none s there same => none (same ▸ there)⟩

theorem empty_mem_toList_iff {members : List String} {one : Option String} :
    "" ∈ toList ⟨members, one⟩ ↔ "" ∈ members := by
  rw [toList, List.mem_append, Option.mem_toList, Option.filter_eq_some_iff]
  simp

/-- A body is accepted exactly when it names members as described. All whom it names are passed on
in order, and empty texts among them are left out exactly when none of them is listed. -/
theorem empty_texts_left_out_iff (body : List UInt8) :
    ((∃ tokens, parse body = .ok tokens) ↔ ∃ members one, Named body members one) ∧
      ∀ members one, Named body members one → ∃ tokens, parse body = .ok tokens ∧
        (tokens = (members ++ one.toList).filter (· ≠ "") ↔ "" ∉ members) ∧
        ("" ∈ tokens ↔ "" ∈ members) := by
  constructor
  · constructor
    · rintro ⟨tokens, read⟩
      obtain ⟨members, one, named, -⟩ := parse_eq_ok.1 read
      exact ⟨members, one, named⟩
    · rintro ⟨members, one, named⟩
      exact ⟨_, parse_eq_ok.2 ⟨members, one, named, rfl⟩⟩
  · intro members one named
    exact ⟨_, parse_eq_ok.2 ⟨members, one, named, rfl⟩, toList_eq_filter_iff, empty_mem_toList_iff⟩

/-- The value of a body that names one more member, an empty text. -/
def aliceAndNobody : Json :=
  .object [("members", .array [.text "alice"]), ("_one_member", .text "")]

theorem alice_named :
    Named (Utf8.bytes aliceAndNobody.compact) ["alice"] (some "") ∧
      ∃ tokens, parse (Utf8.bytes aliceAndNobody.compact) = .ok tokens ∧ tokens = ["alice"] ∧
        "" ∉ tokens := by
  have named : Named (Utf8.bytes aliceAndNobody.compact) ["alice"] (some "") :=
    .of_text (Json.parse_compact rfl) rfl (.object (.listed ["alice"]) (.text ""))
  have unlisted : "" ∉ ["alice"] := by decide
  obtain ⟨tokens, read, whole, empty⟩ :=
    (empty_texts_left_out_iff (Utf8.bytes aliceAndNobody.compact)).2 _ _ named
  exact ⟨named, tokens, read, whole.2 unlisted, empty.not.2 unlisted⟩

/-- A listed empty text is passed on. -/
theorem empty_text_listed :
    (listing [""]).compact = "\x7b\"members\":[\"\"]\x7d" ∧
      Named (Utf8.bytes (listing [""]).compact) [""] none ∧
      parse (Utf8.bytes (listing [""]).compact) = .ok [""] := by
  have written : Json.parse (listing [""]).compact = some (listing [""]) := Json.parse_compact rfl
  refine ⟨by decide +kernel, ?_, parse_listing written⟩
  exact .of_text written (whole?_listing [""]) (.object (.listed [""]) .absent)

end CodeReview.MembersInput
