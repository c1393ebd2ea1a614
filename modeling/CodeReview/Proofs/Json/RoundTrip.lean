import CodeReview.Json.Printer
import CodeReview.Json.Reader
import CodeReview.Proofs.Text.Digits
set_option autoImplicit false

/-!
The text of a value is read as that value, compact or laid out in lines. Doubles are left out,
since a double may be read one bit off; integers must fit in 64 bits.
-/
namespace CodeReview.Json

namespace Number

theorem value_snoc (ds : List Nat) (d : Nat) : value (ds ++ [d]) = 10 * value ds + d := by
  simp [value]

/-- The digits of a number are its value, and the first one is zero only when it is alone. -/
theorem decimal_digits (n : Nat) :
    ∃ ds : List Nat, (∀ d ∈ ds, d < 10) ∧ Text.Numeral.decimal n = ds.map Nat.digitChar ∧
      value ds = n ∧ (ds = [0] ∨ ∃ d rest, ds = d :: rest ∧ 0 < d) := by
  induction n using Nat.strongRecOn with
  | ind n ih =>
    by_cases hn : n < 10
    · refine ⟨[n], by simpa using hn, Nat.toDigits_of_lt_base hn, by simp [value], ?_⟩
      rcases Nat.eq_zero_or_pos n with rfl | pos
      · exact .inl rfl
      · exact .inr ⟨n, [], rfl, pos⟩
    · obtain ⟨ds, small, written, val, first⟩ := ih (n / 10) (by omega)
      refine ⟨ds ++ [n % 10], ?_, ?_, ?_, ?_⟩
      · simp only [List.mem_append, List.mem_singleton]
        rintro d (hd | rfl)
        · exact small d hd
        · omega
      · rw [Text.Numeral.decimal, Nat.toDigits_of_base_le (by decide) (by omega)]
        rw [Text.Numeral.decimal] at written
        rw [written, List.map_append, List.map_singleton]
      · rw [value_snoc, val]
        omega
      · rcases first with rfl | ⟨d, rest, rfl, pos⟩
        · simp only [value, List.foldl_cons, List.foldl_nil] at val
          omega
        · exact .inr ⟨d, rest ++ [n % 10], rfl, pos⟩

/-- No number goes on with the text. -/
def Ends (rest : List Char) : Prop :=
  ∀ c ∈ rest.head?, digit? c = none ∧ c ≠ '.' ∧ c ≠ 'e' ∧ c ≠ 'E'

theorem digits_append {ds : List Nat} (small : ∀ d ∈ ds, d < 10) {rest : List Char}
    (h : Ends rest) : digits (ds.map Nat.digitChar ++ rest) = (ds, rest) := by
  induction ds with
  | nil =>
    cases rest with
    | nil => rfl
    | cons c cs =>
      have stop : digit? c = none := (h c (by simp)).1
      simp [digits, stop]
  | cons d ds ih =>
    have head : digit? d.digitChar = some d := Text.Numeral.digit?_ten d (small d (by simp))
    have tail := ih fun e he => small e (by simp [he])
    simp only [List.map_cons, List.cons_append, digits, head, tail]

theorem unsigned?_decimal (negative : Bool) (n : Nat) {rest : List Char} (h : Ends rest) :
    ∃ ds, value ds = n ∧
      unsigned? negative (Text.Numeral.decimal n ++ rest) =
        some (⟨negative, ds, none, none⟩, rest) := by
  obtain ⟨ds, small, written, val, first⟩ := decimal_digits n
  refine ⟨ds, val, ?_⟩
  have fraction : fraction? rest = some (none, rest) := by
    unfold fraction?
    split
    · next cs => exact absurd rfl (h '.' (by simp)).2.1
    · rfl
  have exponent : exponent? rest = some (none, rest) := by
    unfold exponent?
    split
    · next cs => exact absurd rfl (h 'e' (by simp)).2.2.1
    · next cs => exact absurd rfl (h 'E' (by simp)).2.2.2
    · rfl
  rw [unsigned?, written, digits_append small h]
  rcases first with rfl | ⟨d, more, rfl, pos⟩
  · simp only [fraction, exponent]
  · obtain ⟨k, rfl⟩ := Nat.exists_eq_succ_of_ne_zero (Nat.pos_iff_ne_zero.1 pos)
    simp only [fraction, exponent]

theorem lexeme?_decimal (n : Nat) (rest : List Char) :
    lexeme? (Text.Numeral.decimal n ++ rest) =
      unsigned? false (Text.Numeral.decimal n ++ rest) := by
  obtain ⟨ds, small, written, -, first⟩ := decimal_digits n
  have head : ∀ d : Nat, d < 10 → d.digitChar ≠ '-' := by decide
  rw [written, lexeme?]
  intro cs e
  rcases first with rfl | ⟨d, more, rfl, -⟩
  · exact head 0 (by decide) (List.cons.inj e).1
  · exact head d (small d (by simp)) (List.cons.inj e).1

/-- The integers that are read as such: those of 64 bits, with or without a sign. -/
def Fits (i : Int) : Prop :=
  Int64.minValue.toInt ≤ i ∧ i < UInt64.size

instance : DecidablePred Fits := fun _ => inferInstanceAs (Decidable (_ ∧ _))

theorem fits_iff {i : Int} : Fits i ↔ -0x8000000000000000 ≤ i ∧ i < 0x10000000000000000 :=
  .rfl

theorem read_writeInt {i : Int} (hi : Fits i) {rest : List Char} (h : Ends rest) :
    read (writeInt i ++ rest) = some (.int i, rest) := by
  rw [fits_iff] at hi
  unfold writeInt
  split
  · next neg =>
    obtain ⟨ds, val, hu⟩ := unsigned?_decimal true i.natAbs h
    have range : value ds ≠ 0 ∧ value ds ≤ 1 <<< 63 := by omega
    have whole : -(Int.ofNat (value ds)) = i := by
      rw [val, Int.ofNat_eq_natCast]
      omega
    simp only [read, List.cons_append, lexeme?, hu, Option.map_some, Lexeme.toJson, range,
      Option.isSome_none, Bool.or_self, Bool.false_eq_true, if_false, if_true, ne_eq,
      not_false_eq_true, and_self, whole]
  · next nonneg =>
    obtain ⟨ds, val, hu⟩ := unsigned?_decimal false i.natAbs h
    have range : value ds < UInt64.size := by
      rw [UInt64.size]
      omega
    have whole : Int.ofNat (value ds) = i := by
      rw [val, Int.ofNat_eq_natCast]
      omega
    simp only [read, lexeme?_decimal, hu, Option.map_some, Lexeme.toJson, range,
      Option.isSome_none, Bool.or_self, Bool.false_eq_true, if_false, if_true, whole]

end Number

namespace Quoted

theorem ofUnit_toNat {c : Char} (h : c.toNat < 0x20) : Piece.ofUnit c.toNat = .char c := by
  rw [Piece.ofUnit, if_neg (by omega), Char.ofNat_toNat]

/-- Every escape is read as its character, and so is a character without one. -/
theorem pieces_escapeChar (c : Char) (rest : List Char) :
    pieces (escapeChar c ++ rest) = (pieces rest).map fun p => (.char c :: p.1, p.2) := by
  unfold escapeChar
  split
  · next e => subst e; rfl
  split
  · next e => subst e; rfl
  split
  · next e => subst e; rfl
  split
  · next e => subst e; rfl
  split
  · next e => subst e; rfl
  split
  · next e => subst e; rfl
  split
  · next e => subst e; rfl
  split
  · next control =>
    have digit : ∀ k, Text.Numeral.digit? 16 (Nat.digitChar (k % 16)) = some (k % 16) :=
      fun k => Text.Numeral.digit?_sixteen _ (Nat.mod_lt _ (by decide))
    have whole : ((c.toNat / 4096 % 16 * 16 + c.toNat / 256 % 16) * 16 + c.toNat / 16 % 16) * 16 +
        c.toNat % 16 = c.toNat := by omega
    simp only [fourDigits, List.cons_append, List.nil_append, pieces, digit, whole,
      ofUnit_toNat control]
  · next quote backslash _ _ _ _ _ plain =>
    -- the other cases of reading begin with a quote or a backslash
    rw [List.singleton_append, pieces, if_neg plain]
    all_goals simp [quote, backslash]

theorem pieces_escape (cs rest : List Char) :
    pieces (escape cs ++ '"' :: rest) = some (cs.map .char, rest) := by
  induction cs with
  | nil => rfl
  | cons c cs ih =>
    rw [escape, List.append_assoc, pieces_escapeChar, ih]
    rfl

theorem escape_append (cs ds : List Char) : escape (cs ++ ds) = escape cs ++ escape ds := by
  induction cs with
  | nil => rfl
  | cons c cs ih => rw [List.cons_append, escape, escape, ih, List.append_assoc]

theorem length_escape_replicate (n : Nat) (c : Char) :
    (escape (List.replicate n c)).length = n * (escapeChar c).length := by
  induction n with
  | zero => simp [escape]
  | succ n ih =>
    rw [List.replicate_succ, escape, List.length_append, ih, Nat.succ_mul, Nat.add_comm]

theorem assemble_chars (cs : List Char) : assemble (cs.map .char) = some cs := by
  induction cs with
  | nil => rfl
  | cons c cs ih =>
    rw [List.map_cons, assemble, ih]
    rfl

theorem decode_escape (s : String) (rest : List Char) :
    decode (escape s.toList ++ '"' :: rest) = some (some s, rest) := by
  rw [decode, pieces_escape, Option.map_some, assemble_chars, Option.map_some,
    String.ofList_toList]

end Quoted

mutual

/-- The value has no doubles, and its integers fit in 64 bits. -/
def plain : Json → Bool
  | .int i => Number.Fits i
  | .array items => plainItems items
  | .object fields => plainFields fields
  | .float _ => false
  | .unreadable => false
  | _ => true

def plainItems : List Json → Bool
  | [] => true
  | x :: xs => plain x && plainItems xs

def plainFields : List (String × Json) → Bool
  | [] => true
  | (_, x) :: xs => plain x && plainFields xs

end

/-- Where blanks stand in a written value: in front of items, fields and closing brackets at each
level, and after colons. -/
structure Spacing where
  gap : Nat → List Char
  colon : List Char
  blank_gap : ∀ level, ∀ c ∈ gap level, isSpace c = true
  blank_colon : ∀ c ∈ colon, isSpace c = true

def Spacing.none : Spacing where
  gap _ := []
  colon := []
  blank_gap _ _ h := absurd h List.not_mem_nil
  blank_colon _ h := absurd h List.not_mem_nil

theorem blank_newLine (level : Nat) : ∀ c ∈ newLine level, isSpace c = true := by
  intro c h
  rcases List.mem_cons.1 h with rfl | h
  · rfl
  · rw [(List.mem_replicate.1 h).2]
    rfl

def Spacing.lines : Spacing where
  gap := newLine
  colon := [' ']
  blank_gap := blank_newLine
  blank_colon _ h := List.mem_singleton.1 h ▸ rfl

mutual

/-- The text of a value that stands at a level. -/
def spaced (sp : Spacing) (level : Nat) : Json → List Char
  | .array [] => ['[', ']']
  | .array (x :: xs) =>
    '[' :: (sp.gap (level + 1) ++ (spaced sp (level + 1) x ++ spacedItems sp level xs))
  | .object [] => ['\x7b', '\x7d']
  | .object ((k, x) :: fs) =>
    '\x7b' :: (sp.gap (level + 1) ++ (Quoted.encode k ++ ':' :: (sp.colon ++
      (spaced sp (level + 1) x ++ spacedFields sp level fs))))
  | j => atom j

def spacedItems (sp : Spacing) (level : Nat) : List Json → List Char
  | [] => sp.gap level ++ [']']
  | x :: xs =>
    ',' :: (sp.gap (level + 1) ++ (spaced sp (level + 1) x ++ spacedItems sp level xs))

def spacedFields (sp : Spacing) (level : Nat) : List (String × Json) → List Char
  | [] => sp.gap level ++ ['\x7d']
  | (k, x) :: fs =>
    ',' :: (sp.gap (level + 1) ++ (Quoted.encode k ++ ':' :: (sp.colon ++
      (spaced sp (level + 1) x ++ spacedFields sp level fs))))

end

mutual

theorem chars_eq_spaced : ∀ (j : Json) (level : Nat), chars j = spaced .none level j
  | .array [], _ => rfl
  | .array (x :: xs), level => by
    rw [chars, spaced, chars_eq_spaced x (level + 1), charsItems_eq_spaced xs level]
    rfl
  | .object [], _ => rfl
  | .object ((k, x) :: fs), level => by
    rw [chars, spaced, chars_eq_spaced x (level + 1), charsFields_eq_spaced fs level]
    rfl
  | .null, _ => rfl
  | .bool _, _ => rfl
  | .int _, _ => rfl
  | .float _, _ => rfl
  | .text _, _ => rfl
  | .unreadable, _ => rfl
termination_by j => sizeOf j

theorem charsItems_eq_spaced : ∀ (xs : List Json) (level : Nat),
    charsItems xs = spacedItems .none level xs
  | [], _ => rfl
  | x :: xs, level => by
    rw [charsItems, spacedItems, chars_eq_spaced x (level + 1), charsItems_eq_spaced xs level]
    rfl
termination_by xs => sizeOf xs

theorem charsFields_eq_spaced : ∀ (fs : List (String × Json)) (level : Nat),
    charsFields fs = spacedFields .none level fs
  | [], _ => rfl
  | (k, x) :: fs, level => by
    rw [charsFields, spacedFields, chars_eq_spaced x (level + 1), charsFields_eq_spaced fs level]
    rfl
termination_by fs => sizeOf fs

end

mutual

theorem layout_eq_spaced : ∀ (j : Json) (level : Nat), layout level j = spaced .lines level j
  | .array [], _ => rfl
  | .array (x :: xs), level => by
    rw [layout, spaced, layout_eq_spaced x (level + 1), layoutItems_eq_spaced xs level,
      List.append_assoc]
    rfl
  | .object [], _ => rfl
  | .object ((k, x) :: fs), level => by
    rw [layout, spaced, layout_eq_spaced x (level + 1), layoutFields_eq_spaced fs level,
      List.append_assoc]
    rfl
  | .null, _ => rfl
  | .bool _, _ => rfl
  | .int _, _ => rfl
  | .float _, _ => rfl
  | .text _, _ => rfl
  | .unreadable, _ => rfl
termination_by j => sizeOf j

theorem layoutItems_eq_spaced : ∀ (xs : List Json) (level : Nat),
    layoutItems level xs = spacedItems .lines level xs
  | [], _ => rfl
  | x :: xs, level => by
    rw [layoutItems, spacedItems, layout_eq_spaced x (level + 1), layoutItems_eq_spaced xs level,
      List.append_assoc]
    rfl
termination_by xs => sizeOf xs

theorem layoutFields_eq_spaced : ∀ (fs : List (String × Json)) (level : Nat),
    layoutFields level fs = spacedFields .lines level fs
  | [], _ => rfl
  | (k, x) :: fs, level => by
    rw [layoutFields, spacedFields, layout_eq_spaced x (level + 1),
      layoutFields_eq_spaced fs level, List.append_assoc]
    rfl
termination_by fs => sizeOf fs

end

theorem skipSpace_blank {bs : List Char} (blank : ∀ c ∈ bs, isSpace c = true) (cs : List Char) :
    skipSpace (bs ++ cs) = skipSpace cs :=
  List.dropWhile_append_of_pos blank

/-- What may stand after a value: nothing, a blank, a comma or a closing bracket. -/
def Follows (rest : List Char) : Prop :=
  ∀ c ∈ rest.head?, isSpace c = true ∨ c = ',' ∨ c = ']' ∨ c = '\x7d'

theorem Follows.ends {rest : List Char} (h : Follows rest) : Number.Ends rest := by
  intro c hc
  rcases h c hc with blank | rfl | rfl | rfl
  · simp only [isSpace, Bool.or_eq_true, decide_eq_true_eq] at blank
    rcases blank with ((rfl | rfl) | rfl) | rfl <;> decide
  all_goals decide

theorem follows_blank {bs cs : List Char} (blank : ∀ c ∈ bs, isSpace c = true) (h : Follows cs) :
    Follows (bs ++ cs) := by
  cases bs with
  | nil => exact h
  | cons b bs =>
    intro c hc
    obtain rfl : b = c := by simpa using hc
    exact .inl (blank b List.mem_cons_self)

section
variable (sp : Spacing) (level : Nat)

theorem follows_items (xs : List Json) (rest : List Char) :
    Follows (spacedItems sp level xs ++ rest) := by
  cases xs with
  | nil =>
    rw [spacedItems, List.append_assoc]
    exact follows_blank (sp.blank_gap level) (by simp [Follows])
  | cons x xs => simp [Follows, spacedItems]

theorem follows_fields (fs : List (String × Json)) (rest : List Char) :
    Follows (spacedFields sp level fs ++ rest) := by
  cases fs with
  | nil =>
    rw [spacedFields, List.append_assoc]
    exact follows_blank (sp.blank_gap level) (by simp [Follows])
  | cons f fs => simp [Follows, spacedFields]

/-- The first character of a value is no blank and closes nothing. -/
def Begins (cs : List Char) : Prop :=
  ∃ c rest, cs = c :: rest ∧ isSpace c = false ∧ c ≠ ']'

theorem begins_writeInt (i : Int) : Begins (Number.writeInt i) := by
  unfold Number.writeInt
  split
  · exact ⟨'-', _, rfl, by decide, by decide⟩
  · obtain ⟨ds, small, written, -, first⟩ := Number.decimal_digits i.natAbs
    have head : ∀ d < 10, isSpace (Nat.digitChar d) = false ∧ Nat.digitChar d ≠ ']' := by decide
    rw [written]
    rcases first with rfl | ⟨d, more, rfl, -⟩
    · exact ⟨'0', [], rfl, by decide, by decide⟩
    · exact ⟨_, _, rfl, head d (small d (by simp))⟩

theorem begins_spaced {j : Json} (h : j.plain) : Begins (spaced sp level j) := by
  cases j with
  | null => exact ⟨_, _, rfl, by decide, by decide⟩
  | bool b => cases b <;> exact ⟨_, _, rfl, by decide, by decide⟩
  | int i => exact begins_writeInt i
  | float bits => simp [plain] at h
  | text s => exact ⟨_, _, rfl, by decide, by decide⟩
  | array items => cases items <;> exact ⟨_, _, rfl, by decide, by decide⟩
  | object fields =>
    cases fields with
    | nil => exact ⟨_, _, rfl, by decide, by decide⟩
    | cons f fs => exact ⟨_, _, rfl, by decide, by decide⟩
  | unreadable => simp [plain] at h

theorem Begins.skipSpace {cs : List Char} (h : Begins cs) (rest : List Char) :
    skipSpace (cs ++ rest) = cs ++ rest := by
  obtain ⟨c, more, rfl, blank, -⟩ := h
  rw [List.cons_append, Json.skipSpace, List.dropWhile_cons_of_neg (by simp [blank])]

/-- Blanks in front of a value are skipped and nothing else. -/
theorem skipSpace_spaced {bs : List Char} (blank : ∀ c ∈ bs, isSpace c = true) {j : Json}
    (h : j.plain) (rest : List Char) :
    skipSpace (bs ++ (spaced sp level j ++ rest)) = spaced sp level j ++ rest := by
  rw [skipSpace_blank blank, (begins_spaced sp level h).skipSpace]

end

theorem value_number {c : Char} (h : c = '-' ∨ ∃ d < 10, c = Nat.digitChar d) (fuel : Nat)
    (cs : List Char) : value (fuel + 1) (c :: cs) = Number.read (c :: cs) := by
  have other : c ≠ 'n' ∧ c ≠ 't' ∧ c ≠ 'f' ∧ c ≠ '"' ∧ c ≠ '[' ∧ c ≠ '\x7b' := by
    rcases h with rfl | ⟨d, hd, rfl⟩
    · decide
    · revert d
      decide
  rw [value.eq_def]
  dsimp only
  split <;> simp_all

theorem value_writeInt {i : Int} (hi : Number.Fits i) {rest : List Char} (h : Number.Ends rest)
    (fuel : Nat) :
    value (fuel + 1) (Number.writeInt i ++ rest) = some (.int i, rest) := by
  have first : ∃ c cs, Number.writeInt i = c :: cs ∧ (c = '-' ∨ ∃ d < 10, c = Nat.digitChar d) := by
    unfold Number.writeInt
    split
    · exact ⟨'-', _, rfl, .inl rfl⟩
    · obtain ⟨ds, small, written, -, first⟩ := Number.decimal_digits i.natAbs
      rw [written]
      rcases first with rfl | ⟨d, more, rfl, -⟩
      · exact ⟨'0', [], rfl, .inr ⟨0, by decide, rfl⟩⟩
      · exact ⟨_, _, rfl, .inr ⟨d, small d (by simp), rfl⟩⟩
  obtain ⟨c, cs, written, hc⟩ := first
  have read := Number.read_writeInt hi h
  rw [written, List.cons_append] at read ⊢
  rw [value_number hc, read]

theorem ofFields_some (fs : List (String × Json)) :
    ofFields (fs.map fun f => (some f.1, f.2)) = .object fs := by
  have all : (fs.map fun f => (some f.1, f.2)).mapM
      (fun f : Option String × Json => f.1.map (·, f.2)) = some fs := by
    induction fs with
    | nil => rfl
    | cons f fs ih => simp [List.mapM_cons, ih]
  rw [ofFields, all]

section
variable (sp : Spacing)

theorem skipSpace_colon (cs : List Char) : skipSpace (':' :: cs) = ':' :: cs := rfl

theorem skipSpace_quoted {bs : List Char} (blank : ∀ c ∈ bs, isSpace c = true) (k : String)
    (rest : List Char) : skipSpace (bs ++ (Quoted.encode k ++ rest)) = Quoted.encode k ++ rest := by
  rw [skipSpace_blank blank]
  rfl

mutual

/-- A value is read up to its end, as soon as there is more fuel than text. -/
theorem value_spaced : ∀ (j : Json) (level : Nat) (rest : List Char) (fuel : Nat), j.plain →
    Follows rest → (spaced sp level j).length < fuel →
    value fuel (spaced sp level j ++ rest) = some (j, rest)
  | _, _, _, 0, _, _, hf => absurd hf (Nat.not_lt_zero _)
  | .null, _, _, _ + 1, _, _, _ => rfl
  | .bool true, _, _, _ + 1, _, _, _ => rfl
  | .bool false, _, _, _ + 1, _, _, _ => rfl
  | .int i, _, _, fuel + 1, h, hr, _ => value_writeInt (of_decide_eq_true h) hr.ends fuel
  | .float _, _, _, _ + 1, h, _, _ => by simp [plain] at h
  | .unreadable, _, _, _ + 1, h, _, _ => by simp [plain] at h
  | .text s, _, rest, fuel + 1, _, _, _ => by
    rw [spaced, atom, Quoted.encode, List.cons_append, List.append_assoc]
    · simp only [value, List.singleton_append, Quoted.decode_escape]
    all_goals simp
  | .array [], _, _, _ + 1, _, _, _ => rfl
  | .array (x :: xs), level, rest, fuel + 1, h, hr, hf => by
    simp only [plain, plainItems, Bool.and_eq_true] at h
    simp only [spaced, List.length_cons, List.length_append, Nat.add_lt_add_iff_right] at hf
    have inside := items_spaced x xs level rest fuel h.1 h.2 (by rw [List.length_append]; omega)
    have blank := skipSpace_spaced sp (level + 1) (sp.blank_gap (level + 1)) h.1
      (spacedItems sp level xs ++ rest)
    obtain ⟨c, cs, hc, -, unclosed⟩ := begins_spaced sp (level + 1) h.1
    rw [spaced, List.cons_append, List.append_assoc, List.append_assoc]
    simp only [value, blank]
    rw [hc, List.cons_append] at inside ⊢
    split
    · next e => exact absurd (List.cons.inj e).1 unclosed
    · rw [inside]
      rfl
  | .object [], _, _, _ + 1, _, _, _ => rfl
  | .object ((k, x) :: fs), level, rest, fuel + 1, h, hr, hf => by
    simp only [plain, plainFields, Bool.and_eq_true] at h
    simp only [spaced, List.length_cons, List.length_append, Nat.add_lt_add_iff_right] at hf
    have inside := fields_spaced k x fs level rest fuel h.1 h.2
      (by simp only [List.length_append, List.length_cons]; omega)
    have blank := skipSpace_quoted (sp.blank_gap (level + 1)) k (':' :: (sp.colon ++
      (spaced sp (level + 1) x ++ (spacedFields sp level fs ++ rest))))
    simp only [spaced, List.cons_append, List.append_assoc, value, blank]
    rw [Quoted.encode, List.cons_append] at inside ⊢
    split
    · next e => exact absurd (List.cons.inj e).1 (by decide)
    · rw [inside, Option.map_some, ofFields_some]
termination_by j => sizeOf j

theorem items_spaced : ∀ (x : Json) (xs : List Json) (level : Nat) (rest : List Char) (fuel : Nat),
    x.plain → plainItems xs →
    (spaced sp (level + 1) x ++ spacedItems sp level xs).length < fuel →
    items fuel (spaced sp (level + 1) x ++ (spacedItems sp level xs ++ rest)) =
      some (x :: xs, rest)
  | _, _, _, _, 0, _, _, hf => absurd hf (Nat.not_lt_zero _)
  | x, [], level, rest, fuel + 1, hx, _, hf => by
    rw [List.length_append] at hf
    have first := value_spaced x (level + 1) (spacedItems sp level [] ++ rest) fuel hx
      (follows_items sp level [] rest) (by simp [spacedItems] at hf; omega)
    have ended : skipSpace (spacedItems sp level [] ++ rest) = ']' :: rest := by
      rw [spacedItems, List.append_assoc, skipSpace_blank (sp.blank_gap level)]
      rfl
    simp only [items, first, ended]
  | x, y :: ys, level, rest, fuel + 1, hx, hxs, hf => by
    simp only [plainItems, Bool.and_eq_true] at hxs
    simp only [List.length_append, spacedItems, List.length_cons] at hf
    have first := value_spaced x (level + 1) (spacedItems sp level (y :: ys) ++ rest) fuel hx
      (follows_items sp level (y :: ys) rest) (by omega)
    have inside := items_spaced y ys level rest fuel hxs.1 hxs.2
      (by rw [List.length_append]; omega)
    have blank := skipSpace_spaced sp (level + 1) (sp.blank_gap (level + 1)) hxs.1
      (spacedItems sp level ys ++ rest)
    have comma : skipSpace (spacedItems sp level (y :: ys) ++ rest) =
        spacedItems sp level (y :: ys) ++ rest := rfl
    simp only [items, first, comma]
    simp only [spacedItems, List.cons_append, List.append_assoc, blank, inside, Option.map_some]
termination_by x xs => sizeOf (x :: xs)

theorem fields_spaced : ∀ (k : String) (x : Json) (fs : List (String × Json)) (level : Nat)
    (rest : List Char) (fuel : Nat), x.plain → plainFields fs →
    (Quoted.encode k ++ ':' :: (sp.colon ++
      (spaced sp (level + 1) x ++ spacedFields sp level fs))).length < fuel →
    fields fuel (Quoted.encode k ++ ':' :: (sp.colon ++
        (spaced sp (level + 1) x ++ (spacedFields sp level fs ++ rest)))) =
      some (((k, x) :: fs).map fun f => (some f.1, f.2), rest)
  | _, _, _, _, _, 0, _, _, hf => absurd hf (Nat.not_lt_zero _)
  | k, x, [], level, rest, fuel + 1, hx, _, hf => by
    simp only [List.length_append, List.length_cons] at hf
    have first := value_spaced x (level + 1) (spacedFields sp level [] ++ rest) fuel hx
      (follows_fields sp level [] rest) (by omega)
    have blank := skipSpace_spaced sp (level + 1) sp.blank_colon hx
      (spacedFields sp level [] ++ rest)
    have ended : skipSpace (spacedFields sp level [] ++ rest) = '\x7d' :: rest := by
      rw [spacedFields, List.append_assoc, skipSpace_blank (sp.blank_gap level)]
      rfl
    rw [Quoted.encode, List.cons_append, List.append_assoc, List.singleton_append]
    simp only [fields, Quoted.decode_escape, skipSpace_colon, blank, first, ended]
    rfl
  | k, x, (l, y) :: gs, level, rest, fuel + 1, hx, hfs, hf => by
    simp only [plainFields, Bool.and_eq_true] at hfs
    simp only [List.length_append, spacedFields, List.length_cons] at hf
    have first := value_spaced x (level + 1) (spacedFields sp level ((l, y) :: gs) ++ rest) fuel hx
      (follows_fields sp level ((l, y) :: gs) rest) (by omega)
    have blank := skipSpace_spaced sp (level + 1) sp.blank_colon hx
      (spacedFields sp level ((l, y) :: gs) ++ rest)
    have inside := fields_spaced l y gs level rest fuel hfs.1 hfs.2
      (by simp only [List.length_append, List.length_cons]; omega)
    have quoted := skipSpace_quoted (sp.blank_gap (level + 1)) l (':' :: (sp.colon ++
      (spaced sp (level + 1) y ++ (spacedFields sp level gs ++ rest))))
    have comma : skipSpace (spacedFields sp level ((l, y) :: gs) ++ rest) =
        spacedFields sp level ((l, y) :: gs) ++ rest := rfl
    rw [Quoted.encode, List.cons_append, List.append_assoc, List.singleton_append]
    simp only [fields, Quoted.decode_escape, skipSpace_colon, blank, first, comma]
    simp only [spacedFields, List.cons_append, List.append_assoc, quoted, inside, Option.map_some,
      List.map_cons]
termination_by k x fs => sizeOf ((k, x) :: fs)

end

/-- The text of a plain value is read as the value, whatever blanks stand at its end. -/
theorem parseChars_spaced {j : Json} (h : j.plain) {after : List Char}
    (blank : ∀ c ∈ after, isSpace c = true) : parseChars (spaced sp 0 j ++ after) = some j := by
  have begin := (begins_spaced sp 0 h).skipSpace after
  have follows : Follows after := by
    rw [← List.append_nil after]
    exact follows_blank blank (by simp [Follows])
  have ended : skipSpace after = [] := by
    have := skipSpace_blank blank []
    rwa [List.append_nil] at this
  have whole := value_spaced sp j 0 after (2 * (spaced sp 0 j ++ after).length + 2) h follows
    (by rw [List.length_append]; omega)
  rw [parseChars, begin, whole]
  dsimp only
  rw [if_pos ended]

end

/-- The compact text of a plain value is read as the value. -/
theorem parse_compact {j : Json} (h : j.plain) : parse j.compact = some j := by
  have read : parseChars (spaced .none 0 j ++ []) = some j := parseChars_spaced .none h (by simp)
  rw [List.append_nil, ← chars_eq_spaced] at read
  rw [parse, compact, String.toList_ofList, read]

/-- The laid out text of a plain value, with a line end after it, is read as the value. -/
theorem parse_pretty {j : Json} (h : j.plain) : parse (j.pretty ++ "\n") = some j := by
  have read : parseChars (spaced .lines 0 j ++ ['\n']) = some j :=
    parseChars_spaced .lines h (by simp [isSpace])
  rw [← layout_eq_spaced] at read
  rw [parse, pretty, String.toList_append, String.toList_ofList]
  exact read

end CodeReview.Json
