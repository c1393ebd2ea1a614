import CodeReview.Text.Blank
import CodeReview.Text.Hex
set_option autoImplicit false

/-!
Digits are read as the numbers they were written for. In base sixteen they are read in letters of
either case, and nothing else is read. In any base a number is read from its digits exactly when it
fits.
-/
namespace CodeReview.Text

theorem Numeral.digit?_ten : ∀ n < 10, Numeral.digit? 10 n.digitChar = some n := by decide

theorem Numeral.digit?_sixteen : ∀ n < 16, Numeral.digit? 16 n.digitChar = some n := by decide

theorem Numeral.digit?_ten_iff {c : Char} {d : Nat} :
    Numeral.digit? 10 c = some d ↔ d < 10 ∧ c = d.digitChar := by
  constructor
  · intro h
    unfold Numeral.digit? at h
    dsimp only at h
    by_cases decimal : 48 ≤ c.toNat ∧ c.toNat ≤ 57
    · have small : c.toNat - 48 < 10 := by omega
      rw [if_pos decimal, if_pos small] at h
      cases h
      refine ⟨small, Char.toNat_inj.1 ?_⟩
      rw [Nat.toNat_digitChar_of_lt_ten small]
      omega
    · -- A letter counts ten or more, and any other character counts as ten.
      have large : ¬(if 97 ≤ c.toNat ∧ c.toNat ≤ 102 then c.toNat - 87
          else if 65 ≤ c.toNat ∧ c.toNat ≤ 70 then c.toNat - 55 else 10) < 10 := by
        split
        · omega
        · split <;> omega
      rw [if_neg decimal, if_neg large] at h
      cases h
  · rintro ⟨small, rfl⟩
    exact Numeral.digit?_ten d small

theorem Hex.digits_lt (b : UInt8) : b.toNat / 16 < 16 ∧ b.toNat % 16 < 16 := by
  have := b.toNat_lt
  omega

theorem Hex.ofNat_digits (b : UInt8) :
    UInt8.ofNat (16 * (b.toNat / 16) + b.toNat % 16) = b := by
  rw [Nat.div_add_mod, UInt8.ofNat_toNat]

theorem Hex.decode_encode (bs : List UInt8) : Hex.decode (Hex.encode bs) = some bs := by
  induction bs with
  | nil => rfl
  | cons b bs ih =>
    obtain ⟨high, low⟩ := Hex.digits_lt b
    simp only [Hex.encode, Hex.ofByte, Hex.digitChar, List.cons_append, List.nil_append,
      Hex.decode, Numeral.digit?_sixteen _ high, Numeral.digit?_sixteen _ low, ih,
      Hex.ofNat_digits]

theorem Hex.mem_encode {c : Char} {bs : List UInt8} (h : c ∈ Hex.encode bs) :
    ∃ d < 16, c = d.digitChar := by
  induction bs with
  | nil => cases h
  | cons b bs ih =>
    obtain ⟨high, low⟩ := Hex.digits_lt b
    rcases List.mem_append.1 h with first | rest
    · simp only [Hex.ofByte, List.mem_cons, List.not_mem_nil, or_false] at first
      rcases first with rfl | rfl
      · exact ⟨_, high, rfl⟩
      · exact ⟨_, low, rfl⟩
    · exact ih rest

theorem fold_of_not_ascii {c : Char} (h : 128 ≤ c.toNat) : fold c = c := by
  unfold fold Char.toLower
  refine dif_neg fun capital => ?_
  have small : c.toNat ≤ 90 := UInt32.le_iff_toNat_le.1 capital.2
  omega

theorem Numeral.digit?_lt {base d : Nat} {c : Char} (h : Numeral.digit? base c = some d) :
    d < base := by
  unfold Numeral.digit? at h
  obtain ⟨small, same⟩ := Option.ite_none_right_eq_some.1 h
  exact Option.some.inj same ▸ small

theorem Numeral.digit?_ascii : ∀ n < 128, ∀ d < 16,
    Numeral.digit? 16 (Char.ofNat n) = some d ↔ fold (Char.ofNat n) = d.digitChar := by
  decide +kernel

/-- A digit of base sixteen is what its number is written as, or the capital of it. -/
theorem Numeral.digit?_sixteen_iff {c : Char} {d : Nat} :
    Numeral.digit? 16 c = some d ↔ d < 16 ∧ fold c = d.digitChar := by
  by_cases ascii : c.toNat < 128
  · have same := Numeral.digit?_ascii c.toNat ascii
    rw [Char.ofNat_toNat] at same
    exact ⟨fun h => ⟨Numeral.digit?_lt h, (same d (Numeral.digit?_lt h)).1 h⟩,
      fun ⟨small, h⟩ => (same d small).2 h⟩
  · have ascii : 128 ≤ c.toNat := Nat.not_lt.1 ascii
    constructor
    · intro h
      have large : ¬(if 48 ≤ c.toNat ∧ c.toNat ≤ 57 then c.toNat - 48
          else if 97 ≤ c.toNat ∧ c.toNat ≤ 102 then c.toNat - 87
          else if 65 ≤ c.toNat ∧ c.toNat ≤ 70 then c.toNat - 55 else 16) < 16 := by
        rw [if_neg (by omega), if_neg (by omega), if_neg (by omega)]
        omega
      exact absurd (Option.ite_none_right_eq_some.1 h).1 large
    · rintro ⟨small, h⟩
      have digit : ∀ d < 16, (Nat.digitChar d).toNat < 128 := by decide
      rw [fold_of_not_ascii ascii] at h
      exact absurd (h ▸ digit d small) (Nat.not_lt.2 ascii)

theorem Hex.map_fold_of_decode {cs : List Char} {bs : List UInt8} (h : Hex.decode cs = some bs) :
    cs.map fold = Hex.encode bs := by
  fun_induction Hex.decode cs generalizing bs with
  | case1 =>
    cases h
    rfl
  | case2 => cases h
  | case3 hc lc cs a b rest read hb ha ih =>
    cases h
    obtain ⟨high, hc⟩ := Numeral.digit?_sixteen_iff.1 ha
    obtain ⟨low, lc⟩ := Numeral.digit?_sixteen_iff.1 hb
    have byte : (UInt8.ofNat (16 * a + b)).toNat = 16 * a + b :=
      UInt8.toNat_ofNat_of_lt (by simp only [UInt8.size]; omega)
    have first : (16 * a + b) / 16 = a := by omega
    have second : (16 * a + b) % 16 = b := by omega
    rw [List.map_cons, List.map_cons, Hex.encode, Hex.ofByte, byte, first, second, hc, lc, ih read]
    rfl
  | case4 => cases h

theorem Hex.decode_of_map_fold {cs : List Char} {bs : List UInt8}
    (h : cs.map fold = Hex.encode bs) : Hex.decode cs = some bs := by
  induction bs generalizing cs with
  | nil =>
    obtain rfl := List.map_eq_nil_iff.1 h
    rfl
  | cons b bs ih =>
    obtain ⟨hc, cs, rfl, first, h⟩ := List.map_eq_cons_iff.1 h
    obtain ⟨lc, cs, rfl, second, h⟩ := List.map_eq_cons_iff.1 h
    obtain ⟨high, low⟩ := Hex.digits_lt b
    rw [Hex.decode, Numeral.digit?_sixteen_iff.2 ⟨high, first⟩,
      Numeral.digit?_sixteen_iff.2 ⟨low, second⟩, ih h]
    dsimp only
    rw [Hex.ofNat_digits]

/-- Bytes are read from their digits in letters of either case. -/
theorem Hex.decode_eq_some_iff {cs : List Char} {bs : List UInt8} :
    Hex.decode cs = some bs ↔ cs.map fold = Hex.encode bs :=
  ⟨Hex.map_fold_of_decode, Hex.decode_of_map_fold⟩

namespace Numeral
variable {base greatest v n : Nat} {cs : List Char} {ds : List Nat}

theorem digit?_plus (base : Nat) : digit? base '+' = none := by
  simp [digit?]

theorem mapM_digit?_cons {c : Char} : (c :: cs).mapM (digit? base) = some ds ↔
    ∃ d, digit? base c = some d ∧ ∃ rest, cs.mapM (digit? base) = some rest ∧ d :: rest = ds := by
  simp [List.mapM_cons, Option.bind_eq_some_iff]

/-- Digits are read as the numbers that they are written for, in the letters that a base takes. -/
theorem mapM_digit?_iff (letter : Char → Char)
    (one : ∀ {c d}, digit? base c = some d ↔ d < base ∧ letter c = d.digitChar) :
    cs.mapM (digit? base) = some ds ↔
      (∀ d ∈ ds, d < base) ∧ cs.map letter = ds.map Nat.digitChar := by
  induction cs generalizing ds with
  | nil => cases ds <;> simp
  | cons c cs ih =>
    rw [mapM_digit?_cons]
    constructor
    · rintro ⟨d, first, rest, more, rfl⟩
      obtain ⟨small, same⟩ := one.1 first
      obtain ⟨all, written⟩ := ih.1 more
      refine ⟨List.forall_mem_cons.2 ⟨small, all⟩, ?_⟩
      rw [List.map_cons, List.map_cons, same, written]
    · rintro ⟨all, written⟩
      obtain ⟨d, rest, rfl, first, more⟩ := List.map_eq_cons_iff.1 written.symm
      obtain ⟨small, all⟩ := List.forall_mem_cons.1 all
      exact ⟨d, one.2 ⟨small, first.symm⟩, rest, ih.2 ⟨all, more.symm⟩, rfl⟩

theorem mapM_digit?_ten_iff : cs.mapM (digit? 10) = some ds ↔
    (∀ d ∈ ds, d < 10) ∧ cs = ds.map Nat.digitChar := by
  rw [mapM_digit?_iff id digit?_ten_iff, List.map_id]

theorem le_foldl_digits (positive : 0 < base) (v : Nat) (ds : List Nat) :
    v ≤ ds.foldl (fun v d => base * v + d) v := by
  induction ds generalizing v with
  | nil => exact Nat.le_refl v
  | cons d ds ih =>
    calc v
      _ ≤ base * v := Nat.le_mul_of_pos_left v positive
      _ ≤ base * v + d := Nat.le_add_right ..
      _ ≤ _ := ih _

/-- Characters are read on after a value exactly when they are digits and the value that they make
fits. The values on the way fit too, since none of them is greater. -/
theorem digits_eq_ok_iff (positive : 0 < base) (fits : v ≤ greatest) :
    digits base greatest v cs = .ok n ↔ n ≤ greatest ∧
      ∃ ds, cs.mapM (digit? base) = some ds ∧ ds.foldl (fun v d => base * v + d) v = n := by
  induction cs generalizing v with
  | nil =>
    constructor
    · rintro ⟨⟩
      exact ⟨fits, [], rfl, rfl⟩
    · rintro ⟨-, ds, ⟨⟩, rfl⟩
      rfl
  | cons c cs ih =>
    rw [digits, Nat.mul_comm v base]
    constructor
    · intro h
      split at h
      · cases h
      · next d read =>
        split at h
        · cases h
        · next small =>
          obtain ⟨whole, ds, rest, made⟩ := (ih (Nat.not_lt.1 small)).1 h
          exact ⟨whole, d :: ds, mapM_digit?_cons.2 ⟨d, read, ds, rest, rfl⟩, made⟩
    · rintro ⟨whole, _, written, rfl⟩
      obtain ⟨d, first, ds, rest, rfl⟩ := mapM_digit?_cons.1 written
      have small : base * v + d ≤ greatest :=
        Nat.le_trans (le_foldl_digits positive _ ds) whole
      rw [first]
      dsimp only
      rw [if_neg (Nat.not_lt.2 small)]
      exact (ih small).2 ⟨whole, ds, rest, rfl⟩

theorem read_plus (some : cs ≠ []) :
    read base greatest ('+' :: cs) = digits base greatest 0 cs := by
  obtain ⟨c, rest, rfl⟩ := List.exists_cons_of_ne_nil some
  rfl

theorem read_of_head {c : Char} (other : c ≠ '+') :
    read base greatest (c :: cs) = digits base greatest 0 (c :: cs) := by
  rw [read.eq_def]
  split
  · next e => cases e
  · next e => exact absurd (List.cons.inj e).1 other
  · next e => exact absurd (List.cons.inj e).1 other
  · rfl

/-- A number is read from at least one digit, perhaps with a plus sign in front. -/
theorem read_eq_ok_iff_digits (positive : 0 < base) :
    read base greatest cs = .ok n ↔ n ≤ greatest ∧
      ∃ written ds, written ≠ [] ∧ written.mapM (digit? base) = some ds ∧
        ds.foldl (fun v d => base * v + d) 0 = n ∧ (cs = written ∨ cs = '+' :: written) := by
  have whole (cs : List Char) := @digits_eq_ok_iff base greatest 0 n cs positive (Nat.zero_le _)
  constructor
  · intro h
    rw [read.eq_def] at h
    split at h
    · cases h
    · cases h
    · next rest some =>
      obtain ⟨fits, ds, digits, made⟩ := (whole rest).1 h
      exact ⟨fits, rest, ds, some, digits, made, .inr rfl⟩
    · next some _ _ =>
      obtain ⟨fits, ds, digits, made⟩ := (whole _).1 h
      exact ⟨fits, _, ds, some, digits, made, .inl rfl⟩
  · rintro ⟨fits, written, ds, some, digits, made, rfl | rfl⟩
    · obtain ⟨c, rest, rfl⟩ := List.exists_cons_of_ne_nil some
      have other : c ≠ '+' := by
        rintro rfl
        obtain ⟨d, plus, -⟩ := mapM_digit?_cons.1 digits
        rw [digit?_plus] at plus
        cases plus
      rw [read_of_head other]
      exact (whole _).2 ⟨fits, ds, digits, made⟩
    · rw [read_plus some]
      exact (whole _).2 ⟨fits, ds, digits, made⟩

end Numeral

end CodeReview.Text
