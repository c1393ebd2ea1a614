import CodeReview.Group.MembersInput
import CodeReview.Change.Report
import CodeReview.Proofs.Json.Record
import CodeReview.Proofs.Text.Utf8
set_option autoImplicit false

/-!
Bodies that name members. A body is read as the value of its text, and an object that lists
members and nothing else names just these, whatever blanks stand in its text.
-/
namespace CodeReview.MembersInput
open Text

theorem isBlankByte_iff {b : UInt8} : isBlankByte b = true ↔
    b = 0x20 ∨ b = 0x09 ∨ b = 0x0a ∨ b = 0x0c ∨ b = 0x0d := by
  simp [isBlankByte, or_assoc]

theorem pieces_blank {bs : List UInt8} (blank : bs.all isBlankByte = true) :
    Utf8.pieces none bs = bs.map fun b => some (Char.ofNat b.toNat) := by
  induction bs with
  | nil => rfl
  | cons b bs ih =>
    rw [List.all_cons, Bool.and_eq_true] at blank
    have start : Utf8.start b = .char (Char.ofNat b.toNat) := by
      rcases isBlankByte_iff.1 blank.1 with rfl | rfl | rfl | rfl | rfl <;> rfl
    rw [Utf8.pieces, start]
    dsimp only
    rw [ih blank.2, List.map_cons]

/-- No value is written with blank bytes alone. -/
theorem parse_of_blank {text : String} (blank : (Utf8.bytes text).all isBlankByte = true) :
    Json.parse text = none := by
  have chars : text.toList.map some =
      (Utf8.bytes text).map fun b => some (Char.ofNat b.toNat) :=
    (Utf8.pieces_encode text.toList).symm.trans (pieces_blank blank)
  have each : ∀ c ∈ text.toList, c = ' ' ∨ c = '\t' ∨ c = '\n' ∨ c = '\x0c' ∨ c = '\r' := by
    intro c there
    have image : some c ∈ (Utf8.bytes text).map fun b => some (Char.ofNat b.toNat) :=
      chars ▸ List.mem_map_of_mem there
    obtain ⟨b, inside, same⟩ := List.mem_map.1 image
    obtain rfl := Option.some.inj same
    rcases isBlankByte_iff.1 (List.all_eq_true.1 blank b inside) with
      rfl | rfl | rfl | rfl | rfl <;> decide
  have refused (fuel : Nat) (rest : List Char) :
      Json.value (fuel + 1) [] = none ∧ Json.value (fuel + 1) ('\x0c' :: rest) = none :=
    ⟨rfl, rfl⟩
  rw [Json.parse, Json.parseChars]
  cases left : Json.skipSpace text.toList with
  | nil => rw [(refused _ []).1]
  | cons c rest =>
    have space : Json.isSpace c = false := by
      have := List.head?_dropWhile_not Json.isSpace text.toList
      rw [show text.toList.dropWhile Json.isSpace = c :: rest from left] at this
      simpa using this
    have there : c ∈ text.toList := by
      refine (List.dropWhile_sublist Json.isSpace).mem ?_
      rw [show text.toList.dropWhile Json.isSpace = c :: rest from left]
      exact List.mem_cons_self
    rcases each c there with rfl | rfl | rfl | rfl | rfl
    · cases space
    · cases space
    · cases space
    · rw [(refused _ rest).2]
    · cases space

theorem filled_of_parse {text : String} {j : Json} (written : Json.parse text = some j) :
    (Utf8.bytes text).all isBlankByte = false := by
  refine Bool.eq_false_iff.2 fun blank => ?_
  rw [parse_of_blank blank] at written
  cases written

theorem parse_text {text : String} {j : Json} (written : Json.parse text = some j)
    (whole : Json.whole? 0 j = some j) : parse (Utf8.bytes text) = ofValue j.sorted := by
  have filled := Bool.eq_false_iff.1 (filled_of_parse written)
  rw [parse, if_neg filled, Utf8.decode?_bytes, Option.bind_some, String.ofList_toList,
    Json.parseValue, written, Option.bind_some, whole]
  rfl

/-- The value of a body that lists members. -/
def listing (tokens : List String) : Json :=
  .object [("members", listJson .text tokens)]

theorem whole?_listing (tokens : List String) :
    Json.whole? 0 (listing tokens) = some (listing tokens) := by
  have depth : Json.depthItems (tokens.map Json.text) = 0 := by
    induction tokens with
    | nil => rfl
    | cons t ts ih => simp [Json.depthItems, Json.depth, ih]
  have readable : Json.readableItems (tokens.map Json.text) = true := by
    clear depth
    induction tokens with
    | nil => rfl
    | cons t ts ih => simpa [Json.readableItems, Json.readable] using ih
  simp [Json.whole?, listing, listJson, Json.readable, Json.readableFields, readable, Json.depth,
    Json.depthFields, depth, Json.deepest]

theorem sorted_listing (tokens : List String) : (listing tokens).sorted = listing tokens := by
  have items : Json.sortedItems (tokens.map Json.text) = tokens.map Json.text := by
    induction tokens with
    | nil => rfl
    | cons t ts ih => simp [Json.sortedItems, Json.sorted, ih]
  simp [listing, listJson, Json.sorted, Json.sortedFields, items, Json.sortFields, Json.setSorted]

theorem ofValue_listing (tokens : List String) : ofValue (listing tokens) = .ok tokens := by
  have record : (listing tokens).record? ["members", "_one_member"] = some
      ⟨[("members", some (listJson .text tokens)), ("_one_member", none)], false⟩ := rfl
  have members : Json.Record.withDefault
      ⟨[("members", some (listJson .text tokens)), ("_one_member", none)], false⟩ "members"
      (Json.list? Json.text?) [] = some tokens :=
    Json.Record.withDefault_of_cell [] rfl (Json.list?_map tokens Json.text?_text)
  have read : ofJson? (listing tokens) = some ⟨tokens, none⟩ := by
    rw [ofJson?, record, Option.bind_eq_bind, Option.bind_some, members]
    rfl
  have names : (⟨tokens, none⟩ : MembersInput).toList = tokens := by simp [toList]
  rw [ofValue, read]
  · exact congrArg Except.ok names
  · intro same
    cases same
  · intro s same
    cases same

/-- A body that lists members names these, in order. -/
theorem parse_listing {text : String} {tokens : List String}
    (written : Json.parse text = some (listing tokens)) :
    parse (Utf8.bytes text) = .ok tokens := by
  rw [parse_text written (whole?_listing tokens), sorted_listing, ofValue_listing]

end CodeReview.MembersInput
