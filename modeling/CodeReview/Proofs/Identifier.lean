import CodeReview.AccountSet
import CodeReview.ObjectId
import CodeReview.Proofs.Json.Record
import CodeReview.Proofs.Text.Digits
import CodeReview.Uuid
set_option autoImplicit false

/-!
Ids are read back from what is written for them, and so are sets of accounts.
-/
namespace CodeReview

@[simp] theorem AccountId.ofJson?_toJson (id : AccountId) : ofJson? id.toJson = some id := by
  simp [ofJson?, toJson]

@[simp] theorem ChangeNumber.ofJson?_toJson (n : ChangeNumber) : ofJson? n.toJson = some n := by
  simp [ofJson?, toJson]

@[simp] theorem GroupNumber.ofJson?_toJson (n : GroupNumber) : ofJson? n.toJson = some n := by
  simp [ofJson?, toJson]

@[simp] theorem AccountId.plain_toJson (id : AccountId) : id.toJson.plain = true :=
  Json.plain_ofUInt32 id.number

@[simp] theorem ChangeNumber.plain_toJson (n : ChangeNumber) : n.toJson.plain = true :=
  Json.plain_ofUInt32 n.number

@[simp] theorem GroupNumber.plain_toJson (n : GroupNumber) : n.toJson.plain = true :=
  Json.plain_ofUInt32 n.number

namespace Text.Numeral

/-- Digits without a sign are read as their number, if that is not too great. -/
theorem read_digits {ds : List Nat} (some : ds ≠ []) (small : ∀ d ∈ ds, d < 10) {greatest : Nat}
    (h : Json.Number.value ds ≤ greatest) :
    read 10 greatest (ds.map Nat.digitChar) = .ok (Json.Number.value ds) :=
  (read_eq_ok_iff_digits (by decide)).2 ⟨h, _, ds, fun none => some (List.map_eq_nil_iff.1 none),
    mapM_digit?_ten_iff.2 ⟨small, rfl⟩, rfl, .inl rfl⟩

/-- What a number is written as reads as the number, if that is not too great. -/
theorem read_decimal {n greatest : Nat} (h : n ≤ greatest) :
    read 10 greatest (decimal n) = .ok n := by
  obtain ⟨ds, small, written, rfl, first⟩ := Json.Number.decimal_digits n
  have some : ds ≠ [] := by
    rcases first with rfl | ⟨d, more, rfl, -⟩ <;> exact List.cons_ne_nil _ _
  rw [written, read_digits some small h]

theorem mem_decimalText {n : Nat} {c : Char} (h : c ∈ (decimalText n).toList) :
    ∃ d < 10, c = d.digitChar := by
  obtain ⟨ds, small, written, -⟩ := Json.Number.decimal_digits n
  rw [decimalText, String.toList_ofList, written] at h
  obtain ⟨d, there, rfl⟩ := List.mem_map.1 h
  exact ⟨d, small d there, rfl⟩

theorem decimalText_ne_nil (n : Nat) : (decimalText n).toList ≠ [] := by
  obtain ⟨ds, -, written, -, first⟩ := Json.Number.decimal_digits n
  rw [decimalText, String.toList_ofList, written]
  rcases first with rfl | ⟨d, rest, rfl, -⟩ <;> exact List.cons_ne_nil _ _

theorem uint32?_decimalText (n : UInt32) : uint32? (decimalText n.toNat) = .ok n := by
  have fits : n.toNat ≤ UInt32.size - 1 := Nat.le_pred_of_lt n.toNat_lt
  rw [uint32?, decimalText, String.toList_ofList, read_decimal fits]
  exact congrArg Except.ok (UInt32.ofNat_toNat)

end Text.Numeral

@[simp] theorem AccountId.parse?_text (id : AccountId) : parse? id.text = some id := by
  rw [parse?, text, Text.Numeral.uint32?_decimalText]
  rfl

@[simp] theorem ChangeNumber.parse?_text (n : ChangeNumber) : parse? n.text = some n := by
  rw [parse?, text, Text.Numeral.uint32?_decimalText]
  rfl

@[simp] theorem GroupNumber.parse?_text (n : GroupNumber) : parse? n.text = some n := by
  rw [parse?, text, Text.Numeral.uint32?_decimalText]
  rfl

@[simp] theorem ObjectId.parse_hex (id : ObjectId) : parse id.hex = .ok id := by
  rw [parse, hex, String.toList_ofList, Text.Hex.decode_encode]
  simp [ofBytes?, id.length_eq]

theorem ObjectId.hex_injective : Function.Injective hex := by
  intro a b same
  have read := a.parse_hex
  rw [same, b.parse_hex] at read
  cases read
  rfl

@[simp] theorem ObjectId.ofJson?_toJson (id : ObjectId) : ofJson? id.toJson = some id := by
  simp [ofJson?, toJson, Json.text?, Except.toOption]

namespace Uuid

theorem unhyphenate?_hyphenate {cs : List Char} (h : cs.length = 32) :
    unhyphenate? (hyphenate cs) = some cs := by
  have four : ∀ n, (cs.drop n).take 4 ++ cs.drop (n + 4) = cs.drop n := fun n => by
    rw [← List.drop_drop, List.take_append_drop]
  have parts : cs.take 8 ++ ((cs.drop 8).take 4 ++ ((cs.drop 12).take 4 ++
      ((cs.drop 16).take 4 ++ cs.drop 20))) = cs := by
    rw [four 16, four 12, four 8, List.take_append_drop]
  have digits : (hyphenate cs).take 8 ++ ((hyphenate cs).drop 9).take 4 ++
      ((hyphenate cs).drop 14).take 4 ++ ((hyphenate cs).drop 19).take 4 ++
      (hyphenate cs).drop 24 = cs := by
    simpa [hyphenate, h, List.take_append, List.drop_append, List.drop_take] using parts
  rw [unhyphenate?, digits, if_pos ⟨h, rfl⟩]

theorem length_hyphenate {cs : List Char} (h : cs.length = 32) :
    (hyphenate cs).length = 36 := by
  simp [hyphenate, h]

theorem parse?_text (u : Uuid) : parse? u.text = some u := by
  have length : u.simple.length = 32 := by
    rw [simple, Text.Hex.length_encode, u.length_eq]
  have read : ofDigits? u.simple = some u := by
    rw [ofDigits?, simple, Text.Hex.decode_encode, Option.bind_some, ofBytes?, dif_pos u.length_eq]
  rw [parse?, text, String.toList_ofList, parseChars?, length_hyphenate length, if_neg (by decide),
    if_pos rfl, unhyphenate?_hyphenate length, Option.bind_some, read]

@[simp] theorem ofJson?_toJson (u : Uuid) : ofJson? u.toJson = some u :=
  parse?_text u

end Uuid

namespace AccountSet

/-- The ids of a set in the order of the list make the set again. -/
theorem ofList_ids (s : AccountSet) : ofList s.ids = s :=
  ext fun _ => mem_ofList

@[simp] theorem ofJson?_toJson (s : AccountSet) : ofJson? s.toJson = some s := by
  rw [ofJson?, toJson, Json.list?_map s.ids AccountId.ofJson?_toJson, Option.map_some, ofList_ids]

@[simp] theorem plain_toJson (s : AccountSet) : s.toJson.plain = true :=
  Json.plainItems_map s.ids AccountId.plain_toJson

end AccountSet

end CodeReview
