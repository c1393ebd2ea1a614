import CodeReview.Proofs.Calendar.Days
import CodeReview.Proofs.Json.RoundTrip
import CodeReview.Proofs.Text.Order
set_option autoImplicit false

/-!
Timestamps are read back. The text of a second that has one is a date and a time of the calendar,
and these are that many seconds after the beginning of 1970. A field with zeros in front has as
many characters as it is wide, so that within years of four digits texts have the order of the
moments that they tell.
-/
namespace CodeReview.Calendar

/-- The number that one digit or more stand for. -/
def number? (cs : List Char) : Option Nat :=
  if cs = [] then none else (cs.mapM (Text.Numeral.digit? 10)).map Json.Number.value

theorem value_zeros (k : Nat) (ds : List Nat) :
    Json.Number.value (List.replicate k 0 ++ ds) = Json.Number.value ds := by
  induction k with
  | zero => rfl
  | succ k ih => simpa [List.replicate_succ, Json.Number.value] using ih

theorem number?_padded (width n : Nat) : number? (padded width n) = some n := by
  obtain ⟨ds, small, written, value, first⟩ := Json.Number.decimal_digits n
  have digits : padded width n =
      (List.replicate (width - ds.length) 0 ++ ds).map Nat.digitChar := by
    rw [padded, written, List.length_map, List.map_append, List.map_replicate]
    rfl
  have all : ∀ d ∈ List.replicate (width - ds.length) 0 ++ ds, d < 10 := by
    intro d there
    rcases List.mem_append.1 there with zero | digit
    · rw [List.eq_of_mem_replicate zero]
      decide
    · exact small d digit
  have some : (List.replicate (width - ds.length) 0 ++ ds).map Nat.digitChar ≠ [] := by
    rcases first with rfl | ⟨d, rest, rfl, -⟩ <;> simp
  rw [number?, digits, if_neg some, Text.Numeral.mapM_digit?_ten_iff.2 ⟨all, rfl⟩,
    Option.map_some, value_zeros, value]

theorem padded_one {n : Nat} (h : n < 10) : padded 1 n = [n.digitChar] := by
  rw [padded, Text.Numeral.decimal, Nat.toDigits_of_lt_base h]
  rfl

/-- A number one wider has one digit more at the end. -/
theorem padded_succ {width : Nat} (h : 1 ≤ width) (n : Nat) :
    padded (width + 1) n = padded width (n / 10) ++ [(n % 10).digitChar] := by
  unfold padded Text.Numeral.decimal
  dsimp only
  rcases Nat.lt_or_ge n 10 with small | large
  · have zero : n / 10 = 0 := Nat.div_eq_of_lt small
    have single : width - 1 + 1 = width := Nat.sub_add_cancel h
    rw [zero, Nat.mod_eq_of_lt small, Nat.toDigits_of_lt_base small,
      Nat.toDigits_of_lt_base (by decide), List.length_singleton, List.length_singleton,
      Nat.add_sub_cancel]
    exact congrArg (· ++ [n.digitChar]) (single ▸ List.replicate_succ')
  · rw [Nat.toDigits_of_base_le (by decide) large, List.length_append, List.length_singleton,
      Nat.add_sub_add_right, List.append_assoc]

theorem length_padded {width : Nat} (h : 1 ≤ width) {n : Nat} (fits : n < 10 ^ width) :
    (padded width n).length = width := by
  induction width, h using Nat.le_induction generalizing n with
  | base => rw [padded_one fits, List.length_singleton]
  | succ width some ih =>
    rw [padded_succ some, List.length_append, ih (by omega), List.length_singleton]

theorem digitChar_lt : ∀ n < 10, ∀ m < n, Nat.digitChar m < Nat.digitChar n := by decide

theorem padded_lt {width : Nat} (h : 1 ≤ width) {n m : Nat} (less : n < m)
    (fits : m < 10 ^ width) : padded width n < padded width m := by
  induction width, h using Nat.le_induction generalizing n m with
  | base =>
    rw [padded_one (less.trans fits), padded_one fits]
    exact List.Lex.rel (digitChar_lt m fits n less)
  | succ width some ih =>
    have short : n / 10 < 10 ^ width := by omega
    have long : m / 10 < 10 ^ width := by omega
    have same := (length_padded some short).trans (length_padded some long).symm
    rw [padded_succ some, padded_succ some, Text.append_lt_append_iff same]
    rcases Nat.lt_or_eq_of_le (Nat.div_le_div_right (c := 10) less.le) with front | front
    · exact .inl (ih front long)
    · exact .inr ⟨congrArg _ front, List.Lex.rel (digitChar_lt _ (by omega) _ (by omega))⟩

/-- A year is digits, perhaps after a sign. -/
def year? : List Char → Option Int
  | '-' :: cs => (number? cs).map fun n : Nat => -(n : Int)
  | '+' :: cs => (number? cs).map fun n : Nat => (n : Int)
  | cs => (number? cs).map fun n : Nat => (n : Int)

/-- Two digits and the mark that comes after them, with what is left. -/
def field? (mark : Char) : List Char → Option (Nat × List Char)
  | tens :: ones :: c :: rest =>
    if c = mark then (number? [tens, ones]).map (·, rest) else none
  | _ => none

/-- Reads a month and a day, a time and nine zeros. -/
def Moment.ofRest? (year : Int) (cs : List Char) : Option Moment := do
  let (month, cs) ← field? '-' cs
  let (day, cs) ← field? ' ' cs
  let (hour, cs) ← field? ':' cs
  let (minute, cs) ← field? ':' cs
  let (second, cs) ← field? '.' cs
  if cs = List.replicate 9 '0' then return ⟨year, month, day, hour, minute, second⟩ else none

/-- The last 25 characters come after the year. -/
def Moment.ofChars? (cs : List Char) : Option Moment :=
  match cs.drop (cs.length - 25) with
  | '-' :: rest => (year? (cs.take (cs.length - 25))).bind fun year => ofRest? year rest
  | _ => none

def Moment.ofText? (s : String) : Option Moment :=
  ofChars? s.toList

theorem field?_padded (mark : Char) {n : Nat} (h : n < 100) (rest : List Char) :
    field? mark (padded 2 n ++ mark :: rest) = some (n, rest) := by
  have read := number?_padded 2 n
  obtain ⟨tens, ones, two⟩ := List.length_eq_two.1 (length_padded (by decide) h)
  rw [two] at read ⊢
  rw [List.cons_append, List.cons_append, List.nil_append, field?, if_pos rfl, read]
  rfl

theorem year?_of_number? {cs : List Char} {n : Nat} (h : number? cs = some n) :
    year? cs = some (n : Int) := by
  rw [year?.eq_def]
  split
  · simp [number?, List.mapM_cons, show Text.Numeral.digit? 10 '-' = none from rfl] at h
  · simp [number?, List.mapM_cons, show Text.Numeral.digit? 10 '+' = none from rfl] at h
  · rw [h]
    rfl

theorem year?_yearText (year : Int) : year? (yearText year) = some year := by
  have digits := number?_padded 4 year.natAbs
  unfold yearText
  split
  · rw [year?_of_number? digits, Int.natAbs_of_nonneg (by omega)]
  split
  · rw [year?, digits, Option.map_some]
    exact congrArg some (by omega)
  · rw [year?, digits, Option.map_some]
    exact congrArg some (by omega)

/-- What is written after the year and a dash. -/
def Moment.restChars (m : Moment) : List Char :=
  padded 2 m.month ++ '-' :: (padded 2 m.day ++ ' ' :: (padded 2 m.hour ++
    ':' :: (padded 2 m.minute ++ ':' :: (padded 2 m.second ++ '.' :: List.replicate 9 '0'))))

theorem Moment.chars_eq (m : Moment) : m.chars = yearText m.year ++ '-' :: m.restChars := by
  simp only [chars, restChars, List.append_assoc, List.cons_append]
  rfl

theorem Moment.ofChars?_append (front : List Char) {rest : List Char} (h : rest.length = 24) :
    ofChars? (front ++ '-' :: rest) = (year? front).bind fun year => ofRest? year rest := by
  have length : (front ++ '-' :: rest).length - 25 = front.length := by
    rw [List.length_append, List.length_cons, h, Nat.add_sub_cancel]
  unfold ofChars?
  rw [length, List.drop_left, List.take_left]
  rfl

section
variable {m : Moment} (h : m.Real)
include h

theorem Moment.Real.two_digits : m.month < 10 ^ 2 ∧ m.day < 10 ^ 2 ∧ m.hour < 10 ^ 2 ∧
    m.minute < 10 ^ 2 ∧ m.second < 10 ^ 2 := by
  obtain ⟨⟨-, month, -, day⟩, hour, minute, second⟩ := h
  have long := daysOfMonth_le m.year m.month
  omega

theorem Moment.Real.length_restChars : m.restChars.length = 24 := by
  obtain ⟨month, day, hour, minute, second⟩ := h.two_digits
  have two {n : Nat} (small : n < 10 ^ 2) := length_padded (by decide : 1 ≤ 2) small
  simp only [restChars, List.length_cons, List.length_append, List.length_replicate, two month,
    two day, two hour, two minute, two second]

theorem Moment.Real.ofRest?_restChars : ofRest? m.year m.restChars = some m := by
  obtain ⟨month, day, hour, minute, second⟩ := h.two_digits
  simp only [ofRest?, restChars, field?_padded _ month, field?_padded _ day,
    field?_padded _ hour, field?_padded _ minute, field?_padded _ second, Option.bind_eq_bind,
    Option.bind_some, if_true]
  rfl

theorem Moment.Real.ofChars?_chars : ofChars? m.chars = some m := by
  rw [chars_eq, ofChars?_append _ h.length_restChars, year?_yearText, Option.bind_some,
    h.ofRest?_restChars]

end

theorem padded_append_lt {width n m : Nat} {cs ds : List Char} (some : 1 ≤ width)
    (small : n < 10 ^ width) (large : m < 10 ^ width) (h : n < m ∨ n = m ∧ cs < ds) :
    padded width n ++ cs < padded width m ++ ds := by
  have same := (length_padded some small).trans (length_padded some large).symm
  rw [Text.append_lt_append_iff same]
  exact h.imp (padded_lt some · large) fun ⟨equal, rest⟩ => ⟨congrArg _ equal, rest⟩

section
variable {a b : Moment} (ha : a.Real) (hb : b.Real) (ya : 0 ≤ a.year ∧ a.year ≤ 9999)
  (yb : 0 ≤ b.year ∧ b.year ≤ 9999)
include ha hb ya yb

theorem Moment.Real.chars_lt (h : a.Before b) : a.chars < b.chars := by
  obtain ⟨month, day, hour, minute, second⟩ := ha.two_digits
  obtain ⟨month', day', hour', minute', second'⟩ := hb.two_digits
  have two : 1 ≤ 2 := by decide
  have next {c : Char} {cs ds : List Char} : cs < ds → c :: cs < c :: ds := List.Lex.cons
  rw [chars_eq, chars_eq, yearText, yearText, if_pos ya, if_pos yb, restChars, restChars]
  refine padded_append_lt (by decide) (by omega) (by omega) (h.imp (by omega) ?_)
  rintro ⟨year, rest⟩
  refine ⟨congrArg _ year, next (padded_append_lt two month month' (rest.imp_right ?_))⟩
  rintro ⟨same, rest⟩
  refine ⟨same, next (padded_append_lt two day day' (rest.imp_right ?_))⟩
  rintro ⟨same, rest⟩
  refine ⟨same, next (padded_append_lt two hour hour' (rest.imp_right ?_))⟩
  rintro ⟨same, rest⟩
  refine ⟨same, next (padded_append_lt two minute minute' (rest.imp_right ?_))⟩
  rintro ⟨same, less⟩
  exact ⟨same, next (padded_append_lt two second second' (.inl less))⟩

theorem Moment.Real.chars_lt_iff : a.chars < b.chars ↔ a.Before b := by
  refine ⟨fun less => ?_, ha.chars_lt hb ya yb⟩
  have different : a ≠ b := fun same => by
    rw [same] at less
    exact List.lt_irrefl _ less
  exact (Moment.Before.total different).resolve_right fun after =>
    List.lt_asymm less (hb.chars_lt ha yb ya after)

end

theorem chars_moment {s : Int} (h : InYears (-262143) 262142 s) :
    ∃ m : Moment, m.Real ∧ m.seconds = s ∧ moment s = m := by
  obtain ⟨real, seconds⟩ := momentOf_spec s
  exact ⟨_, real, seconds, by rw [moment, if_pos (inYears_iff.2 h)]⟩

/-- Every second of the years that have a text is read back from it as a date and a time that
exist. So no two of them have the same text, and within years of four digits their texts have, in
bytes, the order of the seconds. Every other second has the text of the beginning of 1970. -/
theorem timestamps_read_back (s t : Int64) :
    (InYears (-262143) 262142 s.toInt → ∃ m, Moment.ofText? (timestamp s) = some m ∧
      m.Real ∧ m.seconds = s.toInt) ∧
    (InYears (-262143) 262142 s.toInt → InYears (-262143) 262142 t.toInt →
      timestamp s = timestamp t → s = t) ∧
    (InYears 0 9999 s.toInt → InYears 0 9999 t.toInt →
      (Text.Utf8.bytes (timestamp s) < Text.Utf8.bytes (timestamp t) ↔ s < t)) ∧
    (¬InYears (-262143) 262142 s.toInt → timestamp s = "1970-01-01 00:00:00.000000000") := by
  have read (s : Int64) (h : InYears (-262143) 262142 s.toInt) :
      ∃ m, Moment.ofText? (timestamp s) = some m ∧ m.Real ∧ m.seconds = s.toInt := by
    obtain ⟨m, real, seconds, written⟩ := chars_moment h
    refine ⟨m, ?_, real, seconds⟩
    rw [timestamp, written, Moment.ofText?, String.toList_ofList, real.ofChars?_chars]
  refine ⟨read s, fun hs ht same => ?_, fun hs ht => ?_, fun outside => ?_⟩
  · obtain ⟨m, readS, -, secondsS⟩ := read s hs
    obtain ⟨n, readT, -, secondsT⟩ := read t ht
    rw [same, readT] at readS
    cases readS
    exact Int64.toInt_inj.1 (secondsS.symm.trans secondsT)
  · have wide {s : Int} (h : InYears 0 9999 s) : InYears (-262143) 262142 s :=
      h.mono (by decide) (by decide)
    obtain ⟨m, realM, secondsM, writtenM⟩ := chars_moment (wide hs)
    obtain ⟨n, realN, secondsN, writtenN⟩ := chars_moment (wide ht)
    rw [← secondsM, realM.inYears_iff] at hs
    rw [← secondsN, realN.inYears_iff] at ht
    rw [Text.Utf8.bytes_lt_iff, String.lt_iff, timestamp, timestamp, String.toList_ofList,
      String.toList_ofList, writtenM, writtenN, realM.chars_lt_iff realN hs ht,
      ← realM.seconds_lt_iff realN, secondsM, secondsN, Int64.lt_iff_toInt_lt]
  · rw [timestamp, moment, if_neg fun inside => outside (inYears_iff.1 inside)]
    decide

/-- A leap day before 1970 and a day of the year 2000. -/
theorem timestamps_of_1960_and_2000 :
    (∃ m, Moment.ofText? (timestamp (-310435201)) = some m ∧ m.Real ∧ m.seconds = -310435201) ∧
    timestamp (-310435201) ≠ timestamp 951782400 ∧
    Text.Utf8.bytes (timestamp (-310435201)) < Text.Utf8.bytes (timestamp 951782400) ∧
    timestamp Int64.maxValue = "1970-01-01 00:00:00.000000000" := by
  have first : InYears 0 9999 (-310435201 : Int64).toInt := by decide
  have second : InYears 0 9999 (951782400 : Int64).toInt := by decide
  have readable {s : Int} (h : InYears 0 9999 s) : InYears (-262143) 262142 s :=
    h.mono (by decide) (by decide)
  obtain ⟨read, apart, order, -⟩ := timestamps_read_back (-310435201) 951782400
  obtain ⟨-, -, -, outside⟩ := timestamps_read_back Int64.maxValue 0
  have different : (-310435201 : Int64) ≠ 951782400 := by decide
  exact ⟨read (readable first),
    fun same => different (apart (readable first) (readable second) same),
    (order first second).2 (by decide), outside (by decide)⟩

end CodeReview.Calendar
