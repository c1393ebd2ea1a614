import CodeReview.Text.Numeral
set_option autoImplicit false

/-!
Calendar dates and times of seconds since the beginning of 1970, in the Gregorian calendar
carried on before its introduction and after the year 9999. Dates from the year -262143 to the
year 262142 have a text; any other second is written as the beginning of 1970.
-/
namespace CodeReview.Calendar

structure Moment where
  year : Int
  month : Nat
  day : Nat
  hour : Nat
  minute : Nat
  second : Nat
  deriving DecidableEq, Repr

/-- Days from the first of March of the year 0 to the first day of 1970. -/
def epoch : Int := 719468

/-- Years of the calendar that starts in March repeat every 400 years, which are 146097 days. -/
def dateOfDays (days : Int) : Int × Nat × Nat :=
  let z := days + epoch
  let era := z / 146097
  let dayOfEra := (z % 146097).toNat
  let yearOfEra := (dayOfEra - dayOfEra / 1460 + dayOfEra / 36524 - dayOfEra / 146096) / 365
  let dayOfYear := dayOfEra - (365 * yearOfEra + yearOfEra / 4 - yearOfEra / 100)
  let shifted := (5 * dayOfYear + 2) / 153
  let day := dayOfYear - (153 * shifted + 2) / 5 + 1
  let month := if shifted < 10 then shifted + 3 else shifted - 9
  let year := Int.ofNat yearOfEra + era * 400 + (if month ≤ 2 then 1 else 0)
  (year, month, day)

/-- The first and the last second whose date has a text. -/
def firstSecond : Int := -8334601228800
def lastSecond : Int := 8210266876799

def momentOf (seconds : Int) : Moment :=
  let (year, month, day) := dateOfDays (seconds / 86400)
  let time := (seconds % 86400).toNat
  ⟨year, month, day, time / 3600, time / 60 % 60, time % 60⟩

def moment (seconds : Int) : Moment :=
  if firstSecond ≤ seconds ∧ seconds ≤ lastSecond then momentOf seconds else momentOf 0

def padded (width n : Nat) : List Char :=
  let ds := Text.Numeral.decimal n
  List.replicate (width - ds.length) '0' ++ ds

/-- A year from 0 to 9999 has four digits; any other has a sign and at least four. -/
def yearText (year : Int) : List Char :=
  if 0 ≤ year ∧ year ≤ 9999 then padded 4 year.natAbs
  else (if year < 0 then '-' else '+') :: padded 4 year.natAbs

def Moment.chars (m : Moment) : List Char :=
  yearText m.year ++ '-' :: padded 2 m.month ++ '-' :: padded 2 m.day ++ ' ' :: padded 2 m.hour
    ++ ':' :: padded 2 m.minute ++ ':' :: padded 2 m.second
    ++ ['.', '0', '0', '0', '0', '0', '0', '0', '0', '0']

def timestamp (seconds : Int64) : String :=
  String.ofList (moment seconds.toInt).chars

end CodeReview.Calendar
