import CodeReview.Calendar
import Mathlib.Tactic.IntervalCases
set_option autoImplicit false

/-!
Days of the Gregorian calendar. A year has 365 days, or 366 when it has a leap day, and its months
have the lengths that they are known to have. From these the first day of each year is counted in
days from the beginning of 1970. The date that is found for a day exists and is that day.
-/
namespace CodeReview.Calendar

/-- Every fourth year has a leap day, but of the full centuries only every fourth. -/
def leapDays (y : Int) : Nat :=
  if y % 4 = 0 ∧ (y % 100 ≠ 0 ∨ y % 400 = 0) then 1 else 0

def daysOfMonth (y : Int) (month : Nat) : Nat :=
  if month = 2 then 28 + leapDays y
  else if month ∈ [4, 6, 9, 11] then 30
  else 31

def daysBeforeMonth (y : Int) (month : Nat) : Nat :=
  ((List.range (month - 1)).map fun m => daysOfMonth y (m + 1)).sum

/-- Days from the first day of 1970 to the first day of a year. -/
def newYear (y : Int) : Int :=
  365 * (y - 1970) + ((y - 1) / 4 - 1969 / 4) - ((y - 1) / 100 - 1969 / 100)
    + ((y - 1) / 400 - 1969 / 400)

theorem newYear_add (y : Int) : newYear (y + 1) = newYear y + 365 + leapDays y := by
  unfold newYear leapDays
  split <;> omega

/-- A month begins where the one before it ends. -/
theorem daysBeforeMonth_succ (y : Int) {m : Nat} (h : 1 ≤ m) :
    daysBeforeMonth y (m + 1) = daysBeforeMonth y m + daysOfMonth y m := by
  obtain ⟨k, rfl⟩ : ∃ k, m = k + 1 := ⟨m - 1, by omega⟩
  simp [daysBeforeMonth, List.range_succ]

theorem daysBeforeMonth_late (y : Int) {s : Nat} (h : s ≤ 10) :
    daysBeforeMonth y (s + 3) = (153 * s + 2) / 5 + 59 + leapDays y := by
  interval_cases s <;> simp [daysBeforeMonth, List.range_succ, daysOfMonth] <;> omega

/-- The next year begins after the twelve months of a year. -/
theorem newYear_succ (y : Int) : newYear (y + 1) = newYear y + daysBeforeMonth y 13 := by
  rw [newYear_add, daysBeforeMonth_late y (s := 10) (by omega)]
  omega

/-- The days of an era that are not the last ones of four years. -/
def plainDays (n : Nat) : Nat :=
  n - n / 1460 + n / 36524 - n / 146096

theorem plainDays_mono {n m : Nat} (h : n ≤ m) : plainDays n ≤ plainDays m := by
  have years : n - n / 1460 ≤ m - m / 1460 := by omega
  have centuries : n / 36524 ≤ m / 36524 := Nat.div_le_div_right h
  have left : n / 36524 / 4 = n / 146096 := Nat.div_div_eq_div_mul n 36524 4
  have right : m / 36524 / 4 = m / 146096 := Nat.div_div_eq_div_mul m 36524 4
  unfold plainDays
  rw [← left, ← right]
  omega

/-- Days of an era before the first of March of a year. -/
def daysBeforeMarch (y : Nat) : Nat :=
  365 * y + y / 4 - y / 100 + y / 400

theorem plainDays_ends : ∀ y < 400, plainDays (daysBeforeMarch y) / 365 = y ∧
    plainDays (daysBeforeMarch (y + 1) - 1) / 365 = y := by
  decide +kernel

theorem year_of_plainDays {n : Nat} (h : n < 146097) : plainDays n / 365 < 400 ∧
    daysBeforeMarch (plainDays n / 365) ≤ n ∧ n < daysBeforeMarch (plainDays n / 365 + 1) := by
  have mono {a b : Nat} (le : a ≤ b) : plainDays a / 365 ≤ plainDays b / 365 :=
    Nat.div_le_div_right (plainDays_mono le)
  have small : plainDays n / 365 < 400 := by
    have last := mono (show n ≤ daysBeforeMarch (399 + 1) - 1 from Nat.le_sub_one_of_lt h)
    rw [(plainDays_ends 399 (by decide)).2] at last
    omega
  generalize year : plainDays n / 365 = y at small ⊢
  refine ⟨small, Nat.le_of_not_lt fun before => ?_, Nat.lt_of_not_le fun after => ?_⟩
  · -- Before its first of March, it would be a day of the year before.
    have := mono (Nat.le_sub_one_of_lt before)
    rcases Nat.eq_zero_or_pos y with rfl | some
    · simp [daysBeforeMarch] at before
    · have := (plainDays_ends (y - 1) (by omega)).2
      rw [Nat.sub_add_cancel some] at this
      omega
  · have := mono after
    rcases Nat.lt_or_ge (y + 1) 400 with more | last
    · have := (plainDays_ends (y + 1) more).1
      omega
    · obtain rfl : y = 399 := by omega
      simp [daysBeforeMarch] at after
      omega

/-- From the first of March to the end of a year there are 306 days. -/
theorem newYear_of_march (y : Nat) (era : Int) :
    newYear (y + 400 * era + 1) = 146097 * era + daysBeforeMarch y - epoch + 306 := by
  unfold newYear epoch daysBeforeMarch
  omega

theorem leapDays_le (y : Int) : leapDays y ≤ 1 := by
  unfold leapDays
  split <;> omega

theorem daysOfMonth_le (y : Int) (month : Nat) : daysOfMonth y month ≤ 31 := by
  have := leapDays_le y
  unfold daysOfMonth
  split
  · omega
  split <;> omega

/-- The date of a day of the year that starts in March. -/
def dateFromMarch (year : Int) (day : Nat) : Int × Nat × Nat :=
  let shifted := (5 * day + 2) / 153
  let month := if shifted < 10 then shifted + 3 else shifted - 9
  (year + if month ≤ 2 then 1 else 0, month, day - (153 * shifted + 2) / 5 + 1)

/-- Every day is one of a year that starts in March and has 365 days or one more. -/
theorem dateOfDays_eq (days : Int) : ∃ (year : Int) (day : Nat),
    dateOfDays days = dateFromMarch year day ∧ day < 365 + leapDays (year + 1) ∧
      days = newYear (year + 1) - 306 + day := by
  obtain ⟨era, dayOfEra, small, total⟩ : ∃ (era : Int) (dayOfEra : Nat), dayOfEra < 146097 ∧
      days + epoch = 146097 * era + dayOfEra :=
    ⟨(days + epoch) / 146097, ((days + epoch) % 146097).toNat, by omega, by omega⟩
  have eras : (days + epoch) / 146097 = era := by omega
  have within : ((days + epoch) % 146097).toNat = dayOfEra := by omega
  obtain ⟨few, begun, ends⟩ := year_of_plainDays small
  have same : dateOfDays days = dateFromMarch ((plainDays dayOfEra / 365 : Nat) + era * 400)
      (dayOfEra - (365 * (plainDays dayOfEra / 365) + plainDays dayOfEra / 365 / 4 -
        plainDays dayOfEra / 365 / 100)) := by
    rw [dateOfDays, eras, within, ← plainDays]
    rfl
  generalize plainDays dayOfEra / 365 = y at few begun ends same
  have century : y / 400 = 0 := Nat.div_eq_of_lt few
  obtain ⟨day, sum⟩ := Nat.le.dest begun
  rw [daysBeforeMarch, century, Nat.add_zero] at sum
  rw [← sum, Nat.add_sub_cancel_left] at same
  rw [Int.mul_comm] at same
  have march := newYear_of_march y era
  have next := newYear_of_march (y + 1) era
  rw [show ((y + 1 : Nat) : Int) + 400 * era + 1 = y + 400 * era + 1 + 1 by omega,
    newYear_add] at next
  rw [daysBeforeMarch, century, Nat.add_zero] at march
  exact ⟨_, day, same, by omega, by omega⟩

structure IsDate (year : Int) (month day : Nat) : Prop where
  first : 1 ≤ month
  last : month ≤ 12
  begins : 1 ≤ day
  ends : day ≤ daysOfMonth year month

/-- The days that a date is after the first day of 1970. -/
def dayNumber (year : Int) (month day : Nat) : Int :=
  newYear year + daysBeforeMonth year month + day - 1

/-- The months from March on are January and February of the next year at the end. -/
theorem dateFromMarch_spec {year : Int} {day : Nat} (h : day < 365 + leapDays (year + 1)) :
    ∃ y month d, dateFromMarch year day = (y, month, d) ∧ IsDate y month d ∧
      dayNumber y month d = newYear (year + 1) - 306 + day := by
  have next := newYear_add year
  have few := leapDays_le (year + 1)
  unfold dateFromMarch dayNumber
  generalize shift : (5 * day + 2) / 153 = s
  rcases Nat.lt_or_ge s 10 with early | late
  · have before := daysBeforeMonth_late year (s := s) (by omega)
    have after := daysBeforeMonth_late year (s := s + 1) (by omega)
    have month := daysBeforeMonth_succ year (m := s + 3) (by omega)
    rw [show s + 1 + 3 = s + 3 + 1 by omega, month] at after
    simp only [if_pos early, if_neg (show ¬s + 3 ≤ 2 by omega), Int.add_zero]
    exact ⟨_, _, _, rfl, ⟨by omega, by omega, by omega, by omega⟩, by omega⟩
  · have january : daysBeforeMonth (year + 1) 1 = 0 := rfl
    have february : daysBeforeMonth (year + 1) 2 = 31 := rfl
    have long : daysOfMonth (year + 1) 1 = 31 := rfl
    have short : daysOfMonth (year + 1) 2 = 28 + leapDays (year + 1) := rfl
    simp only [if_neg (show ¬s < 10 by omega), if_pos (show s - 9 ≤ 2 by omega)]
    refine ⟨_, _, _, rfl, ?_⟩
    obtain rfl | rfl : s = 10 ∨ s = 11 := by omega
    · rw [show 10 - 9 = 1 from rfl]
      exact ⟨⟨by omega, by omega, by omega, by omega⟩, by omega⟩
    · rw [show 11 - 9 = 2 from rfl]
      exact ⟨⟨by omega, by omega, by omega, by omega⟩, by omega⟩

/-- Every day has one date. -/
theorem dateOfDays_spec (days : Int) : ∃ y month d, dateOfDays days = (y, month, d) ∧
    IsDate y month d ∧ dayNumber y month d = days := by
  obtain ⟨year, day, made, within, rfl⟩ := dateOfDays_eq days
  rw [made]
  exact dateFromMarch_spec within

theorem newYear_mono {a b : Int} (h : a ≤ b) : newYear a ≤ newYear b := by
  induction b, h using Int.leInduction with
  | base => exact le_rfl
  | succ b _ ih =>
    rw [newYear_add]
    omega

theorem daysBeforeMonth_mono (y : Int) {m n : Nat} (first : 1 ≤ m) (h : m ≤ n) :
    daysBeforeMonth y m ≤ daysBeforeMonth y n := by
  induction n, h using Nat.le_induction with
  | base => exact le_rfl
  | succ n later ih =>
    rw [daysBeforeMonth_succ y (first.trans later)]
    omega

/-- A day of a month is before each later month. -/
theorem IsDate.before_month {y : Int} {month d later : Nat} (h : IsDate y month d)
    (more : month < later) : daysBeforeMonth y month + d ≤ daysBeforeMonth y later := by
  have next := daysBeforeMonth_succ y h.first
  have mono := daysBeforeMonth_mono y (Nat.le_add_left 1 month) more
  have := h.ends
  omega

theorem IsDate.within_year {y : Int} {month d : Nat} (h : IsDate y month d) :
    newYear y ≤ dayNumber y month d ∧ dayNumber y month d < newYear (y + 1) := by
  have before := h.before_month (show month < 13 from Nat.lt_succ_of_le h.last)
  have := h.begins
  rw [newYear_succ, dayNumber]
  omega

theorem dayNumber_lt {y y' : Int} {month month' d d' : Nat} (h : IsDate y month d)
    (h' : IsDate y' month' d')
    (before : y < y' ∨ y = y' ∧ (month < month' ∨ month = month' ∧ d < d')) :
    dayNumber y month d < dayNumber y' month' d' := by
  rcases before with year | ⟨rfl, month | ⟨rfl, day⟩⟩
  · exact h.within_year.2.trans_le ((newYear_mono year).trans h'.within_year.1)
  · have := h.before_month month
    have := h'.begins
    rw [dayNumber, dayNumber]
    omega
  · rw [dayNumber, dayNumber]
    omega

/-- The date exists and the clock shows the time. -/
structure Moment.Real (m : Moment) : Prop where
  date : IsDate m.year m.month m.day
  hour : m.hour < 24
  minute : m.minute < 60
  second : m.second < 60

/-- The seconds from the beginning of 1970 to a moment. -/
def Moment.seconds (m : Moment) : Int :=
  86400 * dayNumber m.year m.month m.day + 3600 * m.hour + 60 * m.minute + m.second

/-- One moment comes before another where they first differ, from the year to the second. -/
def Moment.Before (a b : Moment) : Prop :=
  a.year < b.year ∨ a.year = b.year ∧ (a.month < b.month ∨ a.month = b.month ∧
    (a.day < b.day ∨ a.day = b.day ∧ (a.hour < b.hour ∨ a.hour = b.hour ∧
      (a.minute < b.minute ∨ a.minute = b.minute ∧ a.second < b.second))))

theorem Moment.Before.total {a b : Moment} (h : a ≠ b) : a.Before b ∨ b.Before a := by
  obtain ⟨y, mo, d, ho, mi, s⟩ := a
  obtain ⟨y', mo', d', ho', mi', s'⟩ := b
  unfold Before
  simp only [ne_eq, Moment.mk.injEq] at h ⊢
  omega

theorem momentOf_spec (s : Int) : (momentOf s).Real ∧ (momentOf s).seconds = s := by
  obtain ⟨y, month, d, made, date, number⟩ := dateOfDays_spec (s / 86400)
  have time : (s % 86400).toNat < 86400 := by omega
  have whole : ((s % 86400).toNat : Int) = s % 86400 := by omega
  have parts : momentOf s = ⟨y, month, d, (s % 86400).toNat / 3600, (s % 86400).toNat / 60 % 60,
      (s % 86400).toNat % 60⟩ := by
    rw [momentOf, made]
  generalize (s % 86400).toNat = t at time whole parts
  rw [parts, Moment.seconds, number]
  refine ⟨⟨date, ?_, ?_, ?_⟩, ?_⟩ <;> dsimp only <;> omega

theorem Moment.Real.seconds_lt {a b : Moment} (ha : a.Real) (hb : b.Real) (h : a.Before b) :
    a.seconds < b.seconds := by
  have day : dayNumber a.year a.month a.day < dayNumber b.year b.month b.day ∨
      dayNumber a.year a.month a.day = dayNumber b.year b.month b.day ∧
        (a.hour < b.hour ∨ a.hour = b.hour ∧
          (a.minute < b.minute ∨ a.minute = b.minute ∧ a.second < b.second)) := by
    rcases h with year | ⟨year, month | ⟨month, day | ⟨day, time⟩⟩⟩
    · exact .inl (dayNumber_lt ha.date hb.date (.inl year))
    · exact .inl (dayNumber_lt ha.date hb.date (.inr ⟨year, .inl month⟩))
    · exact .inl (dayNumber_lt ha.date hb.date (.inr ⟨year, .inr ⟨month, day⟩⟩))
    · exact .inr ⟨by rw [year, month, day], time⟩
  have := ha.hour
  have := ha.minute
  have := ha.second
  have := hb.hour
  have := hb.minute
  have := hb.second
  unfold seconds
  omega

theorem Moment.Real.seconds_lt_iff {a b : Moment} (ha : a.Real) (hb : b.Real) :
    a.seconds < b.seconds ↔ a.Before b := by
  refine ⟨fun less => ?_, ha.seconds_lt hb⟩
  have different : a ≠ b := fun same => by
    rw [same] at less
    exact lt_irrefl _ less
  exact (Moment.Before.total different).resolve_right fun after =>
    lt_asymm less (hb.seconds_lt ha after)

/-- A second of one of the years from the first to the last. -/
def InYears (first last s : Int) : Prop :=
  86400 * newYear first ≤ s ∧ s < 86400 * newYear (last + 1)

instance (first last s : Int) : Decidable (InYears first last s) :=
  inferInstanceAs (Decidable (_ ∧ _))

theorem InYears.mono {first last first' last' s : Int} (h : InYears first last s)
    (sooner : first' ≤ first) (later : last ≤ last') : InYears first' last' s := by
  have start := newYear_mono sooner
  have stop := newYear_mono (Int.add_le_add_right later 1)
  unfold InYears at h ⊢
  omega

theorem Moment.Real.inYears_iff {m : Moment} (h : m.Real) {first last : Int} :
    InYears first last m.seconds ↔ first ≤ m.year ∧ m.year ≤ last := by
  have date := h.date.within_year
  have start (later : first ≤ m.year) := newYear_mono later
  have before (earlier : m.year + 1 ≤ first) := newYear_mono earlier
  have stop (earlier : m.year + 1 ≤ last + 1) := newYear_mono earlier
  have after (later : last + 1 ≤ m.year) := newYear_mono later
  have := h.hour
  have := h.minute
  have := h.second
  unfold InYears seconds
  omega

/-- The seconds that have a text are those of the years that have one. -/
theorem inYears_iff {s : Int} :
    firstSecond ≤ s ∧ s ≤ lastSecond ↔ InYears (-262143) 262142 s := by
  have first : 86400 * newYear (-262143) = firstSecond := by decide
  have last : 86400 * newYear (262142 + 1) = lastSecond + 1 := by decide
  unfold InYears
  rw [first, last, Int.lt_add_one_iff]

end CodeReview.Calendar
