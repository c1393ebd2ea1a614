import Mathlib.Data.String.Basic
import CodeReview.Proofs.Identifier
set_option autoImplicit false

/-!
The texts of object ids. A text is read as an object id exactly when it has forty digits of base
sixteen, in letters of either case, and the id is then written as the text in small letters. Every
digit is one byte, so it is the same whether characters or bytes are counted.
-/
namespace CodeReview

namespace Text.Hex

/-- A digit of base sixteen, in a small or a capital letter. -/
def IsDigit (c : Char) : Prop :=
  ('0' ≤ c ∧ c ≤ '9') ∨ ('a' ≤ c ∧ c ≤ 'f') ∨ ('A' ≤ c ∧ c ≤ 'F')

theorem isDigit_iff_toNat {c : Char} : IsDigit c ↔ (48 ≤ c.toNat ∧ c.toNat ≤ 57) ∨
    (97 ≤ c.toNat ∧ c.toNat ≤ 102) ∨ (65 ≤ c.toNat ∧ c.toNat ≤ 70) := by
  have le (a b : Char) : a ≤ b ↔ a.toNat ≤ b.toNat := UInt32.le_iff_toNat_le
  rw [IsDigit, le, le, le, le, le, le]
  rfl

theorem isDigit_iff {c : Char} : IsDigit c ↔ ∃ d, Numeral.digit? 16 c = some d := by
  rw [isDigit_iff_toNat, Numeral.digit?]
  constructor
  · intro within
    refine ⟨_, if_pos ?_⟩
    split
    · omega
    split
    · omega
    split
    · omega
    · omega
  · rintro ⟨d, read⟩
    have small := (Option.ite_none_right_eq_some.1 read).1
    split at small
    · omega
    split at small
    · omega
    split at small
    · omega
    · omega

theorem isDigit_fold {c : Char} {d : Nat} (small : d < 16) (h : fold c = d.digitChar) : IsDigit c :=
  isDigit_iff.2 ⟨d, Numeral.digit?_sixteen_iff.2 ⟨small, h⟩⟩

theorem IsDigit.utf8Size {c : Char} (h : IsDigit c) : c.utf8Size = 1 := by
  have range := isDigit_iff_toNat.1 h
  have ascii : c.toNat ≤ 127 := by omega
  exact Char.utf8Size_eq_one_iff.2 (UInt32.le_iff_toNat_le.2 ascii)

theorem utf8Len_digits {cs : List Char} (digits : ∀ c ∈ cs, IsDigit c) :
    String.utf8Len cs = cs.length := by
  induction cs with
  | nil => rfl
  | cons c cs ih =>
    obtain ⟨first, rest⟩ := List.forall_mem_cons.1 digits
    rw [String.utf8Len_cons, ih rest, first.utf8Size, List.length_cons]

/-- An even number of digits are bytes. -/
theorem exists_decode (n : Nat) {cs : List Char} (length : cs.length = 2 * n)
    (digits : ∀ c ∈ cs, IsDigit c) : ∃ bs, decode cs = some bs := by
  induction n generalizing cs with
  | zero =>
    obtain rfl := List.length_eq_zero_iff.1 length
    exact ⟨[], rfl⟩
  | succ n ih =>
    match cs, length with
    | h :: l :: cs, length =>
      obtain ⟨a, high⟩ := isDigit_iff.1 (digits h (by simp))
      obtain ⟨b, low⟩ := isDigit_iff.1 (digits l (by simp))
      obtain ⟨bs, rest⟩ := @ih cs (by simpa [Nat.mul_add] using length)
        fun c there => digits c (by simp [there])
      exact ⟨_, by rw [decode, high, low, rest]⟩

end Text.Hex

namespace ObjectId

/-- Forty digits of base sixteen. -/
def IsDigits (s : String) : Prop :=
  s.toList.length = 40 ∧ ∀ c ∈ s.toList, Text.Hex.IsDigit c

theorem IsDigits.ne_empty {s : String} (h : IsDigits s) : s ≠ "" := by
  rintro rfl
  cases h.1

theorem length_hex (id : ObjectId) : id.hex.toList.length = 40 := by
  rw [hex, String.toList_ofList, Text.Hex.length_encode, id.length_eq]

/-- A text is read as the id that is written as it is in small letters. -/
theorem parse_eq_ok_iff {s : String} {id : ObjectId} :
    parse s = .ok id ↔ s.toList.map Text.fold = id.hex.toList := by
  rw [hex, String.toList_ofList, ← Text.Hex.decode_eq_some_iff, parse]
  constructor
  · intro h
    split at h
    · next read =>
      obtain ⟨bs, decoded, whole⟩ := Option.bind_eq_some_iff.1 read
      obtain ⟨length, same⟩ := Option.dite_none_right_eq_some.1 whole
      cases h
      obtain rfl := Option.some.inj same
      exact decoded
    · cases h
  · intro decoded
    simp [decoded, ofBytes?, id.length_eq]

/-- Just forty digits are an id. -/
theorem exists_parse_iff {s : String} : (∃ id, parse s = .ok id) ↔ IsDigits s := by
  constructor
  · rintro ⟨id, read⟩
    rw [parse_eq_ok_iff] at read
    refine ⟨?_, fun c there => ?_⟩
    · rw [← id.length_hex, ← read, List.length_map]
    · have folded : Text.fold c ∈ id.hex.toList := read ▸ List.mem_map_of_mem there
      rw [hex, String.toList_ofList] at folded
      obtain ⟨d, small, same⟩ := Text.Hex.mem_encode folded
      exact Text.Hex.isDigit_fold small same
  · rintro ⟨length, digits⟩
    obtain ⟨bs, decoded⟩ := Text.Hex.exists_decode 20 length digits
    have whole : bs.length = 20 := by
      have := Text.Hex.length_of_decode decoded
      omega
    refine ⟨⟨bs, whole⟩, parse_eq_ok_iff.2 ?_⟩
    rw [hex, String.toList_ofList]
    exact Text.Hex.decode_eq_some_iff.1 decoded

theorem parse_cases (s : String) :
    (∃ id, parse s = .ok id) ∨ parse s = .error (.invalidObjectId s) := by
  rw [parse]
  split
  · exact .inl ⟨_, rfl⟩
  · exact .inr rfl

theorem parse_eq_error_iff {s : String} {e : InputError} :
    parse s = .error e ↔ ¬IsDigits s ∧ e = .invalidObjectId s := by
  rw [← exists_parse_iff]
  rcases parse_cases s with ⟨id, read⟩ | failed
  · simp [read]
  · simp [failed, eq_comm]

/-- Forty digits are forty bytes, and the other way round. -/
theorem isDigits_iff_bytes {s : String} :
    IsDigits s ↔ s.utf8ByteSize = 40 ∧ ∀ c ∈ s.toList, Text.Hex.IsDigit c := by
  refine and_congr_left fun digits => ?_
  have bytes : s.utf8ByteSize = s.toList.length := by
    rw [← Text.Hex.utf8Len_digits digits, ← String.utf8ByteSize_ofList, String.ofList_toList]
  rw [bytes]

theorem hex_of_parse {s : String} {id : ObjectId} (read : parse s = .ok id) :
    id.hex = s.toLower := by
  have folded : s.toLower.toList = s.toList.map Text.fold := String.toList_map
  rw [← String.toList_inj, folded, parse_eq_ok_iff.1 read]

/-- Just forty digits are an id, whose text they are in small letters, and any other text is
refused by itself, if only for a character of several bytes. An id is read back from its digits and
from the text of its value. -/
theorem digits_read :
    (∀ s, (∃ id, parse s = .ok id) ↔ IsDigits s) ∧
    (∀ s, IsDigits s ↔ s.utf8ByteSize = 40 ∧ ∀ c ∈ s.toList, Text.Hex.IsDigit c) ∧
    (∀ s id, parse s = .ok id → id.hex = s.toLower) ∧
    (∀ s e, parse s = .error e ↔ ¬IsDigits s ∧ e = .invalidObjectId s) ∧
    (∀ s, s.utf8ByteSize = 40 → (∃ c ∈ s.toList, 1 < c.utf8Size) →
      parse s = .error (.invalidObjectId s)) ∧
    (∀ (bytes : List UInt8) (length : bytes.length = 20),
      parse (hex ⟨bytes, length⟩) = .ok ⟨bytes, length⟩) ∧
    ∀ id, (Json.parse (toJson id).compact).bind ofJson? = some id := by
  refine ⟨fun s => exists_parse_iff, fun s => isDigits_iff_bytes, fun s id => hex_of_parse,
    fun s e => parse_eq_error_iff, fun s bytes wide => ?_, fun bytes length => parse_hex _,
    fun id => ?_⟩
  · obtain ⟨c, there, several⟩ := wide
    refine parse_eq_error_iff.2 ⟨fun digits => ?_, rfl⟩
    have single := (digits.2 c there).utf8Size
    omega
  · have plain : id.toJson.plain = true := rfl
    rw [Json.parse_compact plain, Option.bind_some, ofJson?_toJson]

/-- Digits with letters of both cases are read, and forty bytes with a letter of two are not. -/
theorem digits_of_both_cases :
    (∃ id, parse "ABCDEF0123456789abcdef0123456789ABCDEF01" = .ok id ∧
      id.hex = "ABCDEF0123456789abcdef0123456789ABCDEF01".toLower) ∧
    ("é0123456789abcdef0123456789abcdef012345".utf8ByteSize = 40 ∧
      parse "é0123456789abcdef0123456789abcdef012345" =
        .error (.invalidObjectId "é0123456789abcdef0123456789abcdef012345")) := by
  obtain ⟨-, -, written, -, refused, -⟩ := digits_read
  obtain ⟨id, read⟩ : ∃ id, parse "ABCDEF0123456789abcdef0123456789ABCDEF01" = .ok id := ⟨_, rfl⟩
  have bytes : "é0123456789abcdef0123456789abcdef012345".utf8ByteSize = 40 := rfl
  exact ⟨⟨id, read, written _ id read⟩, bytes, refused _ bytes ⟨'é', by decide, by decide⟩⟩

end ObjectId

end CodeReview
