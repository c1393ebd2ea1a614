import CodeReview.Proofs.Text.Digits
import CodeReview.Proofs.Text.Utf8
import CodeReview.Text.Percent
set_option autoImplicit false

/-!
Letters, digits and underscores stand for themselves in addresses, and every other text can be
written in escapes. A query that is written with these alone is read as the pairs it was written
from.
-/
namespace CodeReview.Text

/-- Splitting takes off one piece without a separator at a time. -/
theorem split_append {α : Type} [DecidableEq α] {sep : α} {piece : List α} (h : sep ∉ piece)
    (rest : List α) : split sep (piece ++ sep :: rest) = piece :: split sep rest := by
  induction piece with
  | nil => simp [split]
  | cons c cs ih =>
    have ne : c ≠ sep := fun e => h (by simp [e])
    have more : sep ∉ cs := fun there => h (List.mem_cons_of_mem c there)
    rw [List.cons_append, split, if_neg ne, ih more]

/-- Texts on both sides of a separator are split on their own. -/
theorem split_append_split {α : Type} [DecidableEq α] {sep : α} (as bs : List α) :
    split sep (as ++ sep :: bs) = split sep as ++ split sep bs := by
  induction as with
  | nil => simp [split]
  | cons c cs ih =>
    rw [List.cons_append, split, split, ih]
    split
    · rfl
    · cases pieces : split sep cs with
      | nil => exact absurd pieces (split_ne_nil sep cs)
      | cons piece more => rfl

theorem split_eq_splitOn {α : Type} [DecidableEq α] (sep : α) (cs : List α) :
    split sep cs = cs.splitOn sep := by
  induction cs with
  | nil => rfl
  | cons c cs ih =>
    rw [split, List.splitOn_cons_eq_if_modifyHead, ← ih]
    by_cases sign : c = sep
    · simp [sign]
    · cases pieces : split sep cs with
      | nil => exact absurd pieces (split_ne_nil sep cs)
      | cons piece more => simp [sign]

theorem not_mem_of_mem_split {α : Type} [DecidableEq α] {sep : α} {cs piece : List α}
    (h : piece ∈ split sep cs) : sep ∉ piece := by
  induction cs generalizing piece with
  | nil => simp_all [split]
  | cons c cs ih =>
    rw [split] at h
    split at h
    · rcases List.mem_cons.1 h with rfl | h
      · exact List.not_mem_nil
      · exact ih h
    · next other =>
      split at h
      · next none => exact absurd none (split_ne_nil sep cs)
      · next first rest pieces =>
        rw [pieces] at ih
        rcases List.mem_cons.1 h with rfl | h
        · rw [List.mem_cons, not_or]
          exact ⟨fun e => other e.symm, ih List.mem_cons_self⟩
        · exact ih (List.mem_cons_of_mem _ h)

theorem differs_of_not_mem {mark : Char} {cs : List Char} (h : mark ∉ cs) :
    ∀ c ∈ cs, decide (c ≠ mark) = true := by
  intro c there
  rw [decide_eq_true_eq]
  rintro rfl
  exact h there

namespace Percent

/-- A letter, a digit or an underscore. -/
def isPlain (c : Char) : Bool :=
  isAsciiAlphanumeric c || c = '_'

/-- All characters of the text are plain. -/
def Plain (cs : List Char) : Prop :=
  ∀ c ∈ cs, isPlain c = true

theorem plain_of_all {cs : List Char} (h : cs.all isPlain = true) : Plain cs :=
  List.all_eq_true.1 h

theorem Plain.not_mem {cs : List Char} (h : Plain cs) {c : Char} (other : isPlain c = false) :
    c ∉ cs := by
  intro there
  rw [h c there] at other
  cases other

theorem decode_plain {cs : List Char} (h : Plain cs) : decode cs = Utf8.encode cs := by
  induction cs with
  | nil => rfl
  | cons c cs ih =>
    have sign : c ≠ '%' := by
      rintro rfl
      exact absurd (h '%' List.mem_cons_self) (by decide)
    have rest := ih fun d there => h d (List.mem_cons_of_mem c there)
    rw [decode.eq_def]
    split
    · next e => cases e
    · next e => exact absurd (List.cons.inj e).1 sign
    · next e =>
      cases e
      rw [rest, Utf8.encode, Utf8.encode, List.flatMap_cons]

theorem segment?_plain {cs : List Char} (h : Plain cs) : segment? cs = some cs := by
  rw [segment?, decode_plain h, Utf8.decode?_encode]

theorem field_plain {cs : List Char} (h : Plain cs) : field cs = cs := by
  have same : (cs.map fun c => if c = '+' then ' ' else c) = cs := by
    refine (List.map_congr_left fun c there => if_neg ?_).trans (List.map_id cs)
    rintro rfl
    exact absurd (h _ there) (by decide)
  rw [field, same, decode_plain h, Utf8.decodeLenient_encode]

/-- The digits of bytes are plain. -/
theorem plain_encode (bytes : List UInt8) : Plain (Hex.encode bytes) := by
  have digit : ∀ d < 16, isPlain (Nat.digitChar d) = true := by decide
  induction bytes with
  | nil => exact fun c there => absurd there List.not_mem_nil
  | cons b bs ih =>
    intro c there
    rw [Hex.encode, Hex.ofByte] at there
    simp only [List.cons_append, List.nil_append, List.mem_cons] at there
    rcases there with rfl | rfl | there
    · exact digit _ (Hex.digits_lt b).1
    · exact digit _ (Hex.digits_lt b).2
    · exact ih c there

/-- Pairs as they stand in a query. -/
def queryChars : List (String × String) → List Char
  | [] => []
  | [p] => p.1.toList ++ '=' :: p.2.toList
  | p :: q :: ps => (p.1.toList ++ '=' :: p.2.toList) ++ '&' :: queryChars (q :: ps)

/-- What a pair is read as, piece by piece. -/
def readPair (p : String × String) : String × String :=
  (String.ofList (field p.1.toList), String.ofList (field p.2.toList))

theorem pair_written {p : String × String} (key : '=' ∉ p.1.toList) :
    pair (p.1.toList ++ '=' :: p.2.toList) = readPair p := by
  have before := differs_of_not_mem key
  rw [pair, List.takeWhile_append_of_pos before, List.dropWhile_append_of_pos before]
  simp [readPair]

theorem not_mem_queryChars {c : Char} (ne : c ≠ '=' ∧ c ≠ '&') {ps : List (String × String)}
    (h : ∀ p ∈ ps, c ∉ p.1.toList ∧ c ∉ p.2.toList) : c ∉ queryChars ps := by
  have single : ∀ p ∈ ps, c ∉ p.1.toList ++ '=' :: p.2.toList := by
    intro p there
    simp [(h p there).1, (h p there).2, ne.1]
  induction ps using queryChars.induct with
  | case1 => exact List.not_mem_nil
  | case2 p => exact single p List.mem_cons_self
  | case3 p q ps ih =>
    have rest := ih (fun x there => h x (List.mem_cons_of_mem p there))
      fun x there => single x (List.mem_cons_of_mem p there)
    rw [queryChars, List.mem_append, List.mem_cons]
    rintro (there | rfl | there)
    · exact single p List.mem_cons_self there
    · exact ne.2 rfl
    · exact rest there

/-- A query is read pair by pair where no piece has a separator in it. -/
theorem pairs_written {ps : List (String × String)}
    (keys : ∀ p ∈ ps, '=' ∉ p.1.toList)
    (pieces : ∀ p ∈ ps, '&' ∉ p.1.toList ∧ '&' ∉ p.2.toList) :
    pairs (queryChars ps) = ps.map readPair := by
  have whole : ∀ p ∈ ps, '&' ∉ p.1.toList ++ '=' :: p.2.toList := by
    intro p there
    simp [(pieces p there).1, (pieces p there).2]
  unfold pairs
  -- No separator follows the last pair, so it is a case of its own.
  induction ps using queryChars.induct with
  | case1 => rfl
  | case2 p =>
    rw [queryChars, split_of_not_mem (whole p List.mem_cons_self)]
    simp [pair_written (keys p List.mem_cons_self)]
  | case3 p q ps ih =>
    have rest := ih (fun x there => keys x (List.mem_cons_of_mem p there))
      (fun x there => pieces x (List.mem_cons_of_mem p there))
      fun x there => whole x (List.mem_cons_of_mem p there)
    rw [queryChars, split_append (whole p List.mem_cons_self), List.filter_cons_of_pos (by simp),
      List.map_cons, pair_written (keys p List.mem_cons_self), rest]
    rfl

/-- All keys and values are plain. -/
def PlainPairs (ps : List (String × String)) : Prop :=
  ∀ p ∈ ps, Plain p.1.toList ∧ Plain p.2.toList

theorem PlainPairs.not_mem {ps : List (String × String)} (h : PlainPairs ps) {c : Char}
    (other : isPlain c = false) : ∀ p ∈ ps, c ∉ p.1.toList ∧ c ∉ p.2.toList :=
  fun p there => ⟨(h p there).1.not_mem other, (h p there).2.not_mem other⟩

/-- A query in plain characters is read as the pairs it was written from. -/
theorem pairs_queryChars {ps : List (String × String)} (h : PlainPairs ps) :
    pairs (queryChars ps) = ps := by
  rw [pairs_written (fun p there => (h.not_mem (by decide) p there).1) (h.not_mem (by decide))]
  refine (List.map_congr_left fun p there => ?_).trans (List.map_id ps)
  simp [readPair, field_plain (h p there).1, field_plain (h p there).2]

/-- A text with all its bytes escaped. -/
def escaped (s : String) : List Char :=
  (Utf8.bytes s).flatMap fun b => '%' :: Hex.ofByte b

theorem not_mem_escaped {c : Char} (sign : c ≠ '%') (other : isPlain c = false) (s : String) :
    c ∉ escaped s := by
  intro there
  obtain ⟨b, -, there⟩ := List.mem_flatMap.1 there
  rcases List.mem_cons.1 there with rfl | there
  · exact sign rfl
  · have digits : Hex.encode [b] = Hex.ofByte b := List.append_nil _
    exact (plain_encode [b]).not_mem other (digits ▸ there)

theorem decode_ofByte (b : UInt8) (cs : List Char) :
    decode ('%' :: (Hex.ofByte b ++ cs)) = b :: decode cs := by
  obtain ⟨high, low⟩ := Hex.digits_lt b
  simp only [Hex.ofByte, Hex.digitChar, List.cons_append, List.nil_append, decode,
    Numeral.digit?_sixteen _ high, Numeral.digit?_sixteen _ low, Hex.ofNat_digits]

theorem decode_escaped (s : String) : decode (escaped s) = Utf8.bytes s := by
  unfold escaped
  induction Utf8.bytes s with
  | nil => rfl
  | cons b bs ih => rw [List.flatMap_cons, List.cons_append, decode_ofByte, ih]

/-- A text is read back from its escapes as a part of a path. -/
theorem segment?_escaped (s : String) : segment? (escaped s) = some s.toList := by
  rw [segment?, decode_escaped, Utf8.decode?_bytes]

theorem field_escaped (s : String) : field (escaped s) = s.toList := by
  have same : ((escaped s).map fun c => if c = '+' then ' ' else c) = escaped s := by
    refine (List.map_congr_left fun c there => if_neg ?_).trans (List.map_id _)
    rintro rfl
    exact not_mem_escaped (by decide) (by decide) s there
  rw [field, same, decode_escaped, Utf8.bytes, Utf8.decodeLenient_encode]

/-- Pairs with all bytes of their keys and values escaped. -/
def escapedPairs (ps : List (String × String)) : List (String × String) :=
  ps.map fun p => (String.ofList (escaped p.1), String.ofList (escaped p.2))

theorem not_mem_escapedPairs {c : Char} (sign : c ≠ '%') (other : isPlain c = false)
    (ps : List (String × String)) :
    ∀ p ∈ escapedPairs ps, c ∉ p.1.toList ∧ c ∉ p.2.toList := by
  intro p there
  obtain ⟨q, -, rfl⟩ := List.mem_map.1 there
  simp only [String.toList_ofList]
  exact ⟨not_mem_escaped sign other q.1, not_mem_escaped sign other q.2⟩

/-- Any pairs are read back from their escapes in a query. -/
theorem pairs_escapedPairs (ps : List (String × String)) :
    pairs (queryChars (escapedPairs ps)) = ps := by
  rw [pairs_written
    (fun p there => (not_mem_escapedPairs (by decide) (by decide) ps p there).1)
    (not_mem_escapedPairs (by decide) (by decide) ps), escapedPairs, List.map_map]
  refine (List.map_congr_left fun p _ => ?_).trans (List.map_id ps)
  simp [readPair, field_escaped]

end Percent

end CodeReview.Text
