import Mathlib.Data.Nat.Digits.Defs
import CodeReview.Proofs.ObjectId
import CodeReview.Proofs.OutputOption
import CodeReview.Proofs.Text.Blank
set_option autoImplicit false

/-!
Masks of options. Which texts write a mask is said by their parts: blanks, a mark of base sixteen,
a sign and digits. A text is read as a set exactly when it writes a mask with no bits but those of
options, and the two ways to fail tell what is wrong with it: bits that belong to no option, or no
mask of 64 bits at all.
-/
namespace CodeReview

namespace Text.Hex

/-- The characters are digits of base sixteen of a number, in letters of either case. -/
def Denotes (cs : List Char) (n : Nat) : Prop :=
  cs ≠ [] ∧ ∃ ds : List Nat, (∀ d ∈ ds, d < 16) ∧ cs.map fold = ds.map Nat.digitChar ∧
    Nat.ofDigits 16 ds.reverse = n

variable {cs : List Char} {n greatest : Nat}

theorem ofDigits_reverse (base : Nat) (ds : List Nat) :
    Nat.ofDigits base ds.reverse = ds.foldl (fun v d => base * v + d) 0 := by
  rw [Nat.ofDigits_eq_foldr, List.foldr_reverse]
  simp [Nat.add_comm]

theorem denotes_iff : Denotes cs n ↔ ∃ ds, cs ≠ [] ∧
    cs.mapM (Numeral.digit? 16) = some ds ∧ ds.foldl (fun v d => 16 * v + d) 0 = n := by
  simp only [Denotes, Numeral.mapM_digit?_iff _ Numeral.digit?_sixteen_iff, ofDigits_reverse,
    exists_and_left, and_assoc]

theorem Denotes.isDigit (h : Denotes cs n) : ∀ c ∈ cs, IsDigit c := by
  obtain ⟨-, ds, small, written, -⟩ := h
  intro c there
  have folded : fold c ∈ ds.map Nat.digitChar := written ▸ List.mem_map_of_mem there
  obtain ⟨d, inside, same⟩ := List.mem_map.1 folded
  exact isDigit_fold (small d inside) same.symm

theorem IsDigit.not_blank {c : Char} (h : IsDigit c) : isBlank c = false := by
  have range := isDigit_iff_toNat.1 h
  simp only [isBlank, Bool.or_eq_false_iff, Bool.and_eq_false_iff, beq_eq_false_iff_ne,
    decide_eq_false_iff_not]
  omega

theorem read_eq_ok_iff : Numeral.read 16 greatest cs = .ok n ↔ n ≤ greatest ∧
    ∃ sign digits, (sign = [] ∨ sign = ['+']) ∧ Denotes digits n ∧ cs = sign ++ digits := by
  rw [Numeral.read_eq_ok_iff_digits (by decide)]
  refine and_congr_right fun _ => ?_
  constructor
  · rintro ⟨written, ds, some, digits, made, rfl | rfl⟩
    · exact ⟨[], cs, .inl rfl, denotes_iff.2 ⟨ds, some, digits, made⟩, rfl⟩
    · exact ⟨['+'], written, .inr rfl, denotes_iff.2 ⟨ds, some, digits, made⟩, rfl⟩
  · rintro ⟨sign, digits, signed, denotes, rfl⟩
    obtain ⟨ds, some, read, made⟩ := denotes_iff.1 denotes
    refine ⟨digits, ds, some, read, made, ?_⟩
    obtain rfl | rfl := signed
    · exact .inl rfl
    · exact .inr rfl

end Text.Hex

namespace OptionSet
open Text

/-- No mark of base sixteen, or one of the two. -/
def IsMark (mark : List Char) : Prop :=
  mark = [] ∨ mark = ['0', 'x'] ∨ mark = ['0', 'X']

/-- The characters write a mask: its digits, after a mark of base sixteen and a plus sign or
without them, with any blanks around all. -/
inductive Writes : List Char → Nat → Prop where
  | mask {before mark sign digits after : List Char} {n : Nat}
    (first : ∀ c ∈ before, isBlank c = true) (marked : IsMark mark)
    (signed : sign = [] ∨ sign = ['+']) (denotes : Hex.Denotes digits n)
    (last : ∀ c ∈ after, isBlank c = true) :
    Writes (before ++ (mark ++ (sign ++ digits)) ++ after) n

variable {cs mark sign digits : List Char} {m n greatest : Nat} {s : String} {t : OptionSet}

theorem exists_mark (cs : List Char) : ∃ mark, IsMark mark ∧ cs = mark ++ maskDigits cs := by
  unfold maskDigits
  split
  · exact ⟨['0', 'x'], .inr (.inl rfl), rfl⟩
  · exact ⟨['0', 'X'], .inr (.inr rfl), rfl⟩
  · exact ⟨[], .inl rfl, rfl⟩

/-- At most one mark is taken off, and what no mark can be in stays as it is. -/
theorem maskDigits_marked (marked : IsMark mark) (plain : ∀ c ∈ cs, c ≠ 'x' ∧ c ≠ 'X') :
    maskDigits (mark ++ cs) = cs := by
  obtain rfl | rfl | rfl := marked
  · rw [List.nil_append]
    unfold maskDigits
    split
    · exact absurd rfl (plain 'x' (by simp)).1
    · exact absurd rfl (plain 'X' (by simp)).2
    · rfl
  · rfl
  · rfl

theorem plain_of_denotes (signed : sign = [] ∨ sign = ['+']) (denotes : Hex.Denotes digits n) :
    ∀ c ∈ sign ++ digits, c ≠ 'x' ∧ c ≠ 'X' := by
  intro c there
  rcases List.mem_append.1 there with inSign | inDigits
  · obtain rfl | rfl := signed
    · cases inSign
    · obtain rfl := List.mem_singleton.1 inSign
      decide
  · have range := Hex.isDigit_iff_toNat.1 (denotes.isDigit c inDigits)
    constructor <;> rintro rfl <;> simp at range

theorem not_blank_of_denotes (marked : IsMark mark) (signed : sign = [] ∨ sign = ['+'])
    (denotes : Hex.Denotes digits n) : ∀ c ∈ mark ++ (sign ++ digits), isBlank c = false := by
  have marks : ∀ c ∈ mark, isBlank c = false := by
    obtain rfl | rfl | rfl := marked <;> simp [isBlank]
  have signs : ∀ c ∈ sign, isBlank c = false := by
    obtain rfl | rfl := signed <;> simp [isBlank]
  intro c there
  rcases List.mem_append.1 there with inMark | there
  · exact marks c inMark
  rcases List.mem_append.1 there with inSign | inDigits
  · exact signs c inSign
  · exact (denotes.isDigit c inDigits).not_blank

/-- What is left of a text without blanks and mark is read as the mask that the text writes. -/
theorem read_eq_ok_iff_writes :
    Numeral.read 16 greatest (maskDigits (trimChars cs)) = .ok n ↔ n ≤ greatest ∧ Writes cs n := by
  rw [Hex.read_eq_ok_iff]
  refine and_congr_right fun _ => ?_
  constructor
  · rintro ⟨sign, digits, signed, denotes, written⟩
    obtain ⟨before, after, first, last, around⟩ := exists_around cs
    obtain ⟨mark, marked, trimmed⟩ := exists_mark (trimChars cs)
    rw [around, trimmed, written]
    exact .mask first marked signed denotes last
  · rintro ⟨first, marked, signed, denotes, last⟩
    refine ⟨_, _, signed, denotes, ?_⟩
    rw [trimChars_around first last
      (trimChars_of_not_blank (not_blank_of_denotes marked signed denotes)),
      maskDigits_marked marked (plain_of_denotes signed denotes)]

/-- A text writes at most one mask. -/
theorem Writes.unique (h : Writes cs m) (k : Writes cs n) : m = n := by
  have first := read_eq_ok_iff_writes.2 ⟨Nat.le_max_left m n, h⟩
  have second := read_eq_ok_iff_writes.2 ⟨Nat.le_max_right m n, k⟩
  exact Except.ok.inj (first.symm.trans second)

theorem ofMask_eq_ok_iff : ofMask n = .ok t ↔ t.mask = n := by
  rw [ofMask]
  constructor
  · intro h
    split at h
    · next small =>
      cases h
      exact Nat.mod_eq_of_lt small
    · cases h
  · rintro rfl
    have defined : t.mask < 1 <<< 24 := t.bits.isLt
    rw [if_pos defined, mask, BitVec.ofNat_toNat, BitVec.setWidth_eq]

theorem ofMask_eq_error_iff {e : InputError} : ofMask n = .error e ↔
    2 ^ 24 ≤ n ∧ e = .undefinedOptionBits (n >>> 24 <<< 24) := by
  rw [ofMask]
  split
  · next small =>
    refine iff_of_false (by simp) fun failed => ?_
    exact Nat.not_le.2 small failed.1
  · next large =>
    rw [Except.error.injEq, eq_comm]
    exact (and_iff_right (Nat.not_lt.1 large)).symm

/-- The bits that are refused are those past the last option. -/
theorem eq_undefined_iff {bits : Nat} : bits = n >>> 24 <<< 24 ↔
    ∀ i, bits.testBit i = (decide (24 ≤ i) && n.testBit i) := by
  have undefined (i : Nat) :
      (n >>> 24 <<< 24).testBit i = (decide (24 ≤ i) && n.testBit i) := by
    rw [Nat.testBit_shiftLeft, Nat.testBit_shiftRight]
    by_cases past : 24 ≤ i
    · rw [Nat.add_sub_cancel' past]
    · simp [past]
  constructor
  · intro same i
    rw [same, undefined]
  · intro same
    exact Nat.eq_of_testBit_eq fun i => (same i).trans (undefined i).symm

theorem read_mask_iff :
    Numeral.read 16 (UInt64.size - 1) (maskDigits (trimChars s.toList)) = .ok n ↔
      n < 2 ^ 64 ∧ Writes s.toList n :=
  read_eq_ok_iff_writes.trans (and_congr_left fun _ => Nat.le_iff_lt_add_one)

theorem ofHex_of_writes (small : n < 2 ^ 64) (writes : Writes s.toList n) :
    ofHex s = ofMask n := by
  rw [ofHex, read_mask_iff.2 ⟨small, writes⟩]

theorem ofHex_of_not_writes (none : ∀ n < 2 ^ 64, ¬Writes s.toList n) :
    ofHex s = .error (.invalidOptionMask s) := by
  rw [ofHex]
  split
  · next n read =>
    obtain ⟨small, writes⟩ := read_mask_iff.1 read
    exact absurd writes (none n small)
  · rfl

/-- A text of a mask of 64 bits is read as the mask is, and any other text is refused. -/
theorem ofHex_cases (s : String) :
    (∃ n < 2 ^ 64, Writes s.toList n ∧ ofHex s = ofMask n) ∨
      (∀ n < 2 ^ 64, ¬Writes s.toList n) ∧ ofHex s = .error (.invalidOptionMask s) := by
  by_cases some : ∃ n < 2 ^ 64, Writes s.toList n
  · obtain ⟨n, small, writes⟩ := some
    exact .inl ⟨n, small, writes, ofHex_of_writes small writes⟩
  · have none : ∀ n < 2 ^ 64, ¬Writes s.toList n := fun n small writes => some ⟨n, small, writes⟩
    exact .inr ⟨none, ofHex_of_not_writes none⟩

theorem ofHex_eq_ok_iff : ofHex s = .ok t ↔ Writes s.toList t.mask := by
  constructor
  · intro h
    rcases ofHex_cases s with ⟨n, -, writes, read⟩ | ⟨-, read⟩
    · rwa [ofMask_eq_ok_iff.1 (read.symm.trans h)]
    · cases read.symm.trans h
  · intro writes
    have small : t.mask < 2 ^ 64 := Nat.lt_trans t.bits.isLt (by decide)
    rw [ofHex_of_writes small writes, ofMask_eq_ok_iff]

theorem ofHex_eq_undefined_iff {bits : Nat} : ofHex s = .error (.undefinedOptionBits bits) ↔
    ∃ n, 2 ^ 24 ≤ n ∧ n < 2 ^ 64 ∧ Writes s.toList n ∧
      ∀ i, bits.testBit i = (decide (24 ≤ i) && n.testBit i) := by
  constructor
  · intro h
    rcases ofHex_cases s with ⟨n, small, writes, read⟩ | ⟨-, read⟩
    · obtain ⟨large, same⟩ := ofMask_eq_error_iff.1 (read.symm.trans h)
      exact ⟨n, large, small, writes, eq_undefined_iff.1 (InputError.undefinedOptionBits.inj same)⟩
    · cases read.symm.trans h
  · rintro ⟨n, large, small, writes, same⟩
    rw [ofHex_of_writes small writes, ofMask_eq_error_iff, ← eq_undefined_iff.2 same]
    exact ⟨large, rfl⟩

theorem ofHex_eq_invalid_iff {value : String} : ofHex s = .error (.invalidOptionMask value) ↔
    value = s ∧ ∀ n < 2 ^ 64, ¬Writes s.toList n := by
  constructor
  · intro h
    rcases ofHex_cases s with ⟨n, -, -, read⟩ | ⟨none, read⟩
    · cases (ofMask_eq_error_iff.1 (read.symm.trans h)).2
    · cases read.symm.trans h
      exact ⟨rfl, none⟩
  · rintro ⟨rfl, none⟩
    exact ofHex_of_not_writes none

theorem exists_mask_eq (defined : n < 2 ^ 24) : ∃ t : OptionSet, t.mask = n :=
  ⟨⟨BitVec.ofNat 24 n⟩, Nat.mod_eq_of_lt defined⟩

/-- The names of a set's options make the set again. -/
theorem ofNames_toList (t : OptionSet) : ofNames (t.toList.map OutputOption.name) = .ok t := by
  have itself (o : OutputOption) : Text.sameFolded o.name o.name = true :=
    Text.sameFolded_iff.2 rfl
  obtain ⟨u, read⟩ : ∃ u, ofNames (t.toList.map OutputOption.name) = .ok u := by
    refine exists_addNames_iff.2 fun token there => ?_
    obtain ⟨o, -, rfl⟩ := List.mem_map.1 there
    exact ⟨o, itself o⟩
  have same : u = t := by
    refine ext fun o => Bool.eq_iff_iff.2 ?_
    rw [contains_addNames read, contains_empty]
    constructor
    · rintro (⟨⟨⟩⟩ | ⟨token, there, names⟩)
      obtain ⟨a, inside, rfl⟩ := List.mem_map.1 there
      have first := OutputOption.ofName?_eq_some_iff.2 names
      have second := OutputOption.ofName?_eq_some_iff.2 (itself a)
      obtain rfl := Option.some.inj (first.symm.trans second)
      exact mem_toList.1 inside
    · intro contained
      exact .inr ⟨o.name, List.mem_map_of_mem (mem_toList.2 contained), itself o⟩
  rw [read, same]

/-- A text is read exactly when it writes a mask below bit 24, as the set with this mask, which its
names give again. A mask of 64 bits with others is refused with these bits, and a text that writes
no mask of 64 bits with the text itself. -/
theorem masks_read (s : String) :
    ((∃ t, ofHex s = .ok t) ↔ ∃ n < 2 ^ 24, Writes s.toList n) ∧
    (∀ t, ofHex s = .ok t → (∀ n, Writes s.toList n ↔ n = t.mask) ∧
      ofNames (t.toList.map OutputOption.name) = .ok t) ∧
    (∀ bits, ofHex s = .error (.undefinedOptionBits bits) ↔
      ∃ n, 2 ^ 24 ≤ n ∧ n < 2 ^ 64 ∧ Writes s.toList n ∧
        ∀ i, bits.testBit i = (decide (24 ≤ i) && n.testBit i)) ∧
    ∀ value, ofHex s = .error (.invalidOptionMask value) ↔
      value = s ∧ ∀ n < 2 ^ 64, ¬Writes s.toList n := by
  refine ⟨?_, fun t read => ⟨fun n => ?_, ofNames_toList t⟩,
    fun bits => ofHex_eq_undefined_iff, fun value => ofHex_eq_invalid_iff⟩
  · constructor
    · rintro ⟨t, read⟩
      exact ⟨t.mask, t.bits.isLt, ofHex_eq_ok_iff.1 read⟩
    · rintro ⟨n, defined, writes⟩
      obtain ⟨t, rfl⟩ := exists_mask_eq defined
      exact ⟨t, ofHex_eq_ok_iff.2 writes⟩
  · have writes := ofHex_eq_ok_iff.1 read
    exact ⟨fun other => other.unique writes, fun same => same ▸ writes⟩

/-- A mask after blanks, a mark, a sign and a zero is read and named, one of bit 24 is refused, and
so is a second mark. -/
theorem masks_of_three_kinds :
    (∃ t, ofHex " 0X+0c1 " = .ok t ∧ Writes " 0X+0c1 ".toList 193 ∧
      ofNames (t.toList.map OutputOption.name) = .ok t) ∧
    (∃ n, ofHex "1000003" = .error (.undefinedOptionBits (2 ^ 24)) ∧ Writes "1000003".toList n ∧
      2 ^ 24 ≤ n) ∧
    ofHex "0x0x1" = .error (.invalidOptionMask "0x0x1") ∧ ¬Writes "0x0x1".toList 1 := by
  obtain ⟨-, read, -⟩ := masks_read " 0X+0c1 "
  obtain ⟨-, -, undefined, -⟩ := masks_read "1000003"
  obtain ⟨-, -, -, invalid⟩ := masks_read "0x0x1"
  obtain ⟨t, mask, set⟩ : ∃ t, t.mask = 193 ∧ ofHex " 0X+0c1 " = .ok t := ⟨_, rfl, rfl⟩
  have refused : ofHex "1000003" = .error (.undefinedOptionBits (2 ^ 24)) := rfl
  have failed : ofHex "0x0x1" = .error (.invalidOptionMask "0x0x1") := rfl
  obtain ⟨n, large, -, writes, -⟩ := (undefined _).1 refused
  exact ⟨⟨t, set, ((read t set).1 193).2 mask.symm, (read t set).2⟩, ⟨n, refused, writes, large⟩,
    failed, ((invalid _).1 failed).2 1 (by decide)⟩

end OptionSet

end CodeReview
