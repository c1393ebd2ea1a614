import CodeReview.Proofs.Identifier
set_option autoImplicit false

/-!
The written forms of a uuid. They are the digits, alone or with hyphens, and with hyphens also in
braces or after `urn:uuid:`, all in letters of either case. Each of them is read as the uuid, and
whatever is read as the uuid is one of them.
-/
namespace CodeReview.Uuid

/-- The characters are a written form of the uuid. -/
inductive Spells (u : Uuid) : List Char → Prop where
  | plain {ds : List Char} (digits : ds.map Text.fold = u.simple) : Spells u ds
  | hyphenated {ds : List Char} (digits : ds.map Text.fold = u.simple) : Spells u (hyphenate ds)
  | braced {ds : List Char} (digits : ds.map Text.fold = u.simple) :
    Spells u ('\x7b' :: (hyphenate ds ++ ['\x7d']))
  | marked {mark ds : List Char} (word : mark.map Text.fold = "urn:uuid:".toList)
    (digits : ds.map Text.fold = u.simple) : Spells u (mark ++ hyphenate ds)

variable {u v : Uuid} {cs ds : List Char}

theorem length_simple (u : Uuid) : u.simple.length = 32 := by
  rw [simple, Text.Hex.length_encode, u.length_eq]

theorem length_of_digits (digits : ds.map Text.fold = u.simple) : ds.length = 32 := by
  rw [← length_simple u, ← digits, List.length_map]

theorem length_of_mark {mark : List Char} (word : mark.map Text.fold = "urn:uuid:".toList) :
    mark.length = 9 := by
  simpa using congrArg List.length word

theorem ofBytes?_eq_some_iff {bs : List UInt8} : ofBytes? bs = some u ↔ bs = u.bytes := by
  constructor
  · intro h
    obtain ⟨length, same⟩ := Option.dite_none_right_eq_some.1 h
    exact congrArg bytes (Option.some.inj same)
  · rintro rfl
    exact dif_pos u.length_eq

theorem ofDigits?_eq_some_iff : ofDigits? cs = some u ↔ cs.map Text.fold = u.simple := by
  rw [ofDigits?, Option.bind_eq_some_iff]
  simp only [ofBytes?_eq_some_iff, exists_eq_right]
  exact Text.Hex.decode_eq_some_iff

theorem unhyphenate?_eq_some_iff :
    unhyphenate? cs = some ds ↔ ds.length = 32 ∧ cs = hyphenate ds := by
  constructor
  · intro h
    obtain ⟨⟨length, whole⟩, same⟩ := Option.ite_none_right_eq_some.1 h
    obtain rfl := Option.some.inj same
    exact ⟨length, whole.symm⟩
  · rintro ⟨length, rfl⟩
    exact unhyphenate?_hyphenate length

theorem read_hyphenated_iff :
    (unhyphenate? cs).bind ofDigits? = some u ↔
      ∃ ds : List Char, ds.map Text.fold = u.simple ∧ cs = hyphenate ds := by
  simp only [Option.bind_eq_some_iff, unhyphenate?_eq_some_iff, ofDigits?_eq_some_iff]
  constructor
  · rintro ⟨ds, ⟨-, rfl⟩, digits⟩
    exact ⟨ds, digits, rfl⟩
  · rintro ⟨ds, digits, rfl⟩
    exact ⟨ds, ⟨length_of_digits digits, rfl⟩, digits⟩

theorem unbrace?_eq_some_iff : unbrace? cs = some ds ↔ cs = '\x7b' :: (ds ++ ['\x7d']) := by
  constructor
  · intro h
    unfold unbrace? at h
    split at h
    · obtain ⟨last, same⟩ := Option.ite_none_right_eq_some.1 h
      obtain ⟨inner, rfl⟩ := List.getLast?_eq_some_iff.1 last
      rw [List.dropLast_concat] at same
      rw [Option.some.inj same]
    · cases h
  · rintro rfl
    simp [unbrace?]

theorem afterMark?_eq_some_iff :
    afterMark? cs = some ds ↔
      ∃ mark : List Char, mark.map Text.fold = "urn:uuid:".toList ∧ cs = mark ++ ds := by
  constructor
  · intro h
    obtain ⟨word, same⟩ := Option.ite_none_right_eq_some.1 h
    obtain rfl := Option.some.inj same
    exact ⟨cs.take 9, word, (List.take_append_drop 9 cs).symm⟩
  · rintro ⟨mark, word, rfl⟩
    have nine := length_of_mark word
    rw [afterMark?, List.take_left' nine, List.drop_left' nine, if_pos word]

/-- The characters are read as a uuid exactly when they are a written form of it. -/
theorem parseChars?_eq_some_iff : parseChars? cs = some u ↔ u.Spells cs := by
  constructor
  · intro h
    unfold parseChars? at h
    split at h
    · exact .plain (ofDigits?_eq_some_iff.1 h)
    split at h
    · obtain ⟨ds, digits, rfl⟩ := read_hyphenated_iff.1 h
      exact .hyphenated digits
    split at h
    · rw [Option.bind_assoc] at h
      obtain ⟨inner, unbraced, inside⟩ := Option.bind_eq_some_iff.1 h
      obtain ⟨ds, digits, rfl⟩ := read_hyphenated_iff.1 inside
      obtain rfl := unbrace?_eq_some_iff.1 unbraced
      exact .braced digits
    split at h
    · rw [Option.bind_assoc] at h
      obtain ⟨rest, after, read⟩ := Option.bind_eq_some_iff.1 h
      obtain ⟨ds, digits, rfl⟩ := read_hyphenated_iff.1 read
      obtain ⟨mark, word, rfl⟩ := afterMark?_eq_some_iff.1 after
      exact .marked word digits
    · cases h
  · intro h
    -- The four forms have lengths of their own.
    cases h with
    | plain digits =>
      rw [parseChars?, if_pos (length_of_digits digits)]
      exact ofDigits?_eq_some_iff.2 digits
    | @hyphenated ds digits =>
      have length := length_hyphenate (length_of_digits digits)
      rw [parseChars?, if_neg (by omega), if_pos length]
      exact read_hyphenated_iff.2 ⟨ds, digits, rfl⟩
    | @braced ds digits =>
      have length : ('\x7b' :: (hyphenate ds ++ ['\x7d'])).length = 38 := by
        simp [length_hyphenate (length_of_digits digits)]
      rw [parseChars?, if_neg (by omega), if_neg (by omega), if_pos length, Option.bind_assoc,
        unbrace?_eq_some_iff.2 rfl]
      exact read_hyphenated_iff.2 ⟨ds, digits, rfl⟩
    | @marked mark ds word digits =>
      have length : (mark ++ hyphenate ds).length = 45 := by
        simp [length_of_mark word, length_hyphenate (length_of_digits digits)]
      rw [parseChars?, if_neg (by omega), if_neg (by omega), if_neg (by omega), if_pos length,
        Option.bind_assoc, afterMark?_eq_some_iff.2 ⟨mark, word, rfl⟩]
      exact read_hyphenated_iff.2 ⟨ds, digits, rfl⟩

theorem parse?_eq_some_iff {s : String} : parse? s = some u ↔ u.Spells s.toList :=
  parseChars?_eq_some_iff

theorem parse?_eq_none_iff {s : String} : parse? s = none ↔ ∀ u : Uuid, ¬u.Spells s.toList := by
  rw [Option.eq_none_iff_forall_ne_some]
  exact forall_congr' fun u => not_congr parse?_eq_some_iff

theorem mem_hyphenate {c : Char} (h : c ∈ hyphenate ds) : c = '-' ∨ c ∈ ds := by
  simp only [hyphenate, List.mem_append, List.mem_cons] at h
  rcases h with first | rfl | second | rfl | third | rfl | fourth | rfl | last
  · exact .inr (List.mem_of_mem_take first)
  · exact .inl rfl
  · exact .inr (List.mem_of_mem_drop (List.mem_of_mem_take second))
  · exact .inl rfl
  · exact .inr (List.mem_of_mem_drop (List.mem_of_mem_take third))
  · exact .inl rfl
  · exact .inr (List.mem_of_mem_drop (List.mem_of_mem_take fourth))
  · exact .inl rfl
  · exact .inr (List.mem_of_mem_drop last)

/-- Small letters and digits of all written forms. -/
def writtenChars : List Char :=
  "0123456789abcdef-\x7b\x7d".toList ++ "urn:uuid:".toList

theorem mem_writtenChars_of_digits (digits : ds.map Text.fold = u.simple) {c : Char}
    (h : c ∈ ds) : Text.fold c ∈ writtenChars := by
  have folded : Text.fold c ∈ u.simple := digits ▸ List.mem_map_of_mem h
  obtain ⟨d, small, same⟩ := Text.Hex.mem_encode folded
  have written : ∀ d < 16, Nat.digitChar d ∈ writtenChars := by decide
  rw [same]
  exact written d small

theorem Spells.mem_writtenChars (h : u.Spells cs) {c : Char} (there : c ∈ cs) :
    Text.fold c ∈ writtenChars := by
  have hyphenated {ds : List Char} (digits : ds.map Text.fold = u.simple)
      (there : c ∈ hyphenate ds) : Text.fold c ∈ writtenChars := by
    rcases mem_hyphenate there with rfl | there
    · decide
    · exact mem_writtenChars_of_digits digits there
  cases h with
  | plain digits => exact mem_writtenChars_of_digits digits there
  | hyphenated digits => exact hyphenated digits there
  | braced digits =>
    rcases List.mem_cons.1 there with rfl | there
    · decide
    · rcases List.mem_append.1 there with there | there
      · exact hyphenated digits there
      · obtain rfl := List.mem_singleton.1 there
        decide
  | marked word digits =>
    rcases List.mem_append.1 there with there | there
    · have folded : Text.fold c ∈ "urn:uuid:".toList := word ▸ List.mem_map_of_mem there
      exact List.mem_append_right _ folded
    · exact hyphenated digits there

theorem Spells.length_le (h : u.Spells cs) : 32 ≤ cs.length := by
  cases h with
  | plain digits => exact Nat.le_of_eq (length_of_digits digits).symm
  | hyphenated digits => simp [length_hyphenate (length_of_digits digits)]
  | braced digits => simp [length_hyphenate (length_of_digits digits)]
  | marked word digits =>
    simp only [List.length_append, length_hyphenate (length_of_digits digits)]
    omega

end CodeReview.Uuid
