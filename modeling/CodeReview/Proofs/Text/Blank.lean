import Mathlib.Data.List.DropRight
import CodeReview.Text.Blank
set_option autoImplicit false

/-!
Trimming a trimmed text changes nothing, and neither does trimming one without blanks. A text
that ends in no blank is trimmed at its start only, and what is trimmed off is blanks.
-/
namespace CodeReview.Text

theorem trimEnd_eq_rdropWhile (cs : List Char) : trimEnd cs = cs.rdropWhile isBlank := rfl

theorem trimStart_trimStart (cs : List Char) : trimStart (trimStart cs) = trimStart cs :=
  List.dropWhile_idempotent isBlank cs

theorem trimStart_trimChars (cs : List Char) : trimStart (trimChars cs) = trimChars cs := by
  obtain ⟨cut, hcut⟩ : trimChars cs <+: trimStart cs := List.rdropWhile_prefix isBlank _
  cases h : trimChars cs with
  | nil => rfl
  | cons c rest =>
    rw [h] at hcut
    have self := trimStart_trimStart cs
    rw [← hcut, trimStart, List.dropWhile_eq_self_iff] at self
    have hc : ¬isBlank c := self (by simp)
    exact trimStart_of_head (by simpa using hc)

theorem trimChars_trimChars (cs : List Char) : trimChars (trimChars cs) = trimChars cs := by
  rw [trimChars, trimStart_trimChars, trimChars, trimEnd_eq_rdropWhile, trimEnd_eq_rdropWhile,
    List.rdropWhile_idempotent]

theorem trimChars_of_not_blank {cs : List Char} (h : ∀ c ∈ cs, isBlank c = false) :
    trimChars cs = cs := by
  have start : trimStart cs = cs := by
    rw [trimStart, List.dropWhile_eq_self_iff]
    intro some
    simp [h _ (List.getElem_mem some)]
  have ending : trimEnd cs = cs := by
    rw [trimEnd_eq_rdropWhile, List.rdropWhile_eq_self_iff]
    intro some
    simp [h _ (List.getLast_mem some)]
  rw [trimChars, start, ending]

theorem trim_of_not_blank {s : String} (h : ∀ c ∈ s.toList, isBlank c = false) : trim s = s := by
  rw [trim, trimChars_of_not_blank h, String.ofList_toList]

theorem trimStart_append_of_head {cs rest : List Char} {c : Char} (h : isBlank c = false) :
    trimStart (cs ++ c :: rest) = trimStart cs ++ c :: rest := by
  induction cs with
  | nil => exact trimStart_of_head h
  | cons d cs ih =>
    unfold trimStart at ih ⊢
    rw [List.cons_append, List.dropWhile_cons, List.dropWhile_cons, ih]
    split <;> rfl

/-- Only blanks before two characters that are no blanks can be trimmed from what they end. -/
theorem trimChars_of_ends {cs inner : List Char} {c d : Char} (hc : isBlank c = false)
    (hd : isBlank d = false) :
    trimChars (cs ++ c :: (inner ++ [d])) = trimStart cs ++ c :: (inner ++ [d]) := by
  have last : trimStart cs ++ c :: (inner ++ [d]) = (trimStart cs ++ c :: inner) ++ [d] := by simp
  rw [trimChars, trimStart_append_of_head hc, last, trimEnd_of_last hd]

theorem trimStart_blanks {before : List Char} (h : ∀ c ∈ before, isBlank c = true)
    (cs : List Char) : trimStart (before ++ cs) = trimStart cs :=
  List.dropWhile_append_of_pos h

theorem trimEnd_blanks {after : List Char} (h : ∀ c ∈ after, isBlank c = true) (cs : List Char) :
    trimEnd (cs ++ after) = trimEnd cs := by
  rw [trimEnd, trimEnd, List.reverse_append, List.dropWhile_append_of_pos]
  intro c there
  exact h c (List.mem_reverse.1 there)

/-- Blanks around a trimmed text are trimmed off. -/
theorem trimChars_around {before cs after : List Char} (hb : ∀ c ∈ before, isBlank c = true)
    (ha : ∀ c ∈ after, isBlank c = true) (trimmed : trimChars cs = cs) :
    trimChars (before ++ cs ++ after) = cs := by
  have start : trimStart cs = cs := by
    rw [← trimmed, trimStart_trimChars]
  rw [trimChars, List.append_assoc, trimStart_blanks hb]
  cases cs with
  | nil =>
    have blank := trimStart_blanks ha []
    rw [List.append_nil] at blank
    rw [List.nil_append, blank]
    rfl
  | cons c cs =>
    have first : Text.isBlank c = false := by
      have kept := start
      rw [trimStart, List.dropWhile_eq_self_iff] at kept
      simpa using kept (Nat.zero_lt_succ _)
    rw [List.cons_append, trimStart_of_head first, ← List.cons_append, trimEnd_blanks ha]
    rw [trimChars, start] at trimmed
    exact trimmed

/-- What is trimmed off a text is blanks around what is left. -/
theorem exists_around (cs : List Char) : ∃ before after : List Char,
    (∀ c ∈ before, isBlank c = true) ∧ (∀ c ∈ after, isBlank c = true) ∧
      cs = before ++ trimChars cs ++ after := by
  have start : cs = cs.takeWhile isBlank ++ trimStart cs := List.takeWhile_append_dropWhile.symm
  have ending : trimStart cs =
      trimChars cs ++ ((trimStart cs).reverse.takeWhile isBlank).reverse := by
    rw [trimChars, trimEnd, ← List.reverse_append, List.takeWhile_append_dropWhile,
      List.reverse_reverse]
  refine ⟨cs.takeWhile isBlank, ((trimStart cs).reverse.takeWhile isBlank).reverse,
    fun c there => List.mem_takeWhile_imp there,
    fun c there => List.mem_takeWhile_imp (List.mem_reverse.1 there), ?_⟩
  rw [List.append_assoc, ← ending]
  exact start

theorem range_of_alphanumeric {c : Char} (h : isAsciiAlphanumeric c = true) :
    '0'.toNat ≤ c.toNat ∧ c.toNat ≤ 'z'.toNat := by
  have least {low : Char} (inside : low.val ≤ c.val) : low.toNat ≤ c.toNat :=
    UInt32.le_iff_toNat_le.1 inside
  have most {high : Char} (inside : c.val ≤ high.val) : c.toNat ≤ high.toNat :=
    UInt32.le_iff_toNat_le.1 inside
  rcases Bool.or_eq_true_iff.1 h with letter | digit
  · rcases Bool.or_eq_true_iff.1 letter with upper | lower
    · obtain ⟨low, high⟩ := of_decide_eq_true upper
      exact ⟨(by decide : '0'.toNat ≤ 'A'.toNat).trans (least low),
        (most high).trans (by decide)⟩
    · obtain ⟨low, high⟩ := Bool.and_eq_true_iff.1 lower
      exact ⟨(by decide : '0'.toNat ≤ 'a'.toNat).trans (least (of_decide_eq_true low)),
        most (of_decide_eq_true high)⟩
  · obtain ⟨low, high⟩ := Bool.and_eq_true_iff.1 digit
    exact ⟨least (of_decide_eq_true low), (most (of_decide_eq_true high)).trans (by decide)⟩

theorem isBlank_of_alphanumeric {c : Char} (h : isAsciiAlphanumeric c = true) :
    isBlank c = false := by
  have range := range_of_alphanumeric h
  simp only [Char.reduceToNat] at range
  simp only [isBlank, Bool.or_eq_false_iff, Bool.and_eq_false_iff, beq_eq_false_iff_ne,
    decide_eq_false_iff_not]
  omega

theorem trim_trim (s : String) : trim (trim s) = trim s := by
  rw [trim, trim, String.toList_ofList, trimChars_trimChars]

end CodeReview.Text
