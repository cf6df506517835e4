/-!
# The calendar

Dates of the Gregorian calendar, by their day numbers, and what there can be of dates, times of day and
distances from universal time. Each thing that there cannot be has its wording in one function.
-/

namespace LifePlan

/-- What is wrong with a date and time. -/
inductive DateFlaw where
  | year (n : Int)
  | month
  | day
  | hour
  | minute
  | second
  | microsecond
  /-- The distance from universal time is a day or more; in days, and seconds from there on. -/
  | offset (days seconds : Int)
  deriving DecidableEq, Repr

/-- The wording for a date and time that there cannot be. -/
def DateFlaw.message : DateFlaw → String
  | .year n => "year " ++ toString n ++ " is out of range"
  | .month => "month must be in 1..12"
  | .day => "day is out of range for month"
  | .hour => "hour must be in 0..23"
  | .minute => "minute must be in 0..59"
  | .second => "second must be in 0..59"
  | .microsecond => "microsecond must be in 0..999999"
  | .offset days seconds =>
    "offset must be a timedelta strictly between -timedelta(hours=24) and timedelta(hours=24), not " ++
      "datetime.timedelta(days=" ++ toString days ++
      (if seconds = 0 then "" else ", seconds=" ++ toString seconds) ++ ")."

namespace Calendar

/-! ## Day numbers -/

/-- The day number of a date of the Gregorian calendar; day 0 is the first of January 1970. -/
def dayNumber (year month day : Int) : Int :=
  let y := if month ≤ 2 then year - 1 else year
  let era := y.fdiv 400
  let yearOfEra := y - era * 400
  let monthFromMarch := if month > 2 then month - 3 else month + 9
  let dayOfYear := (153 * monthFromMarch + 2) / 5 + day - 1
  let dayOfEra := yearOfEra * 365 + yearOfEra / 4 - yearOfEra / 100 + dayOfYear
  era * 146097 + dayOfEra - 719468

/-- The year, month and day of a day number. -/
def dateOfDay (n : Int) : Int × Int × Int :=
  let z := n + 719468
  let era := z.fdiv 146097
  let dayOfEra := z - era * 146097
  let yearOfEra := (dayOfEra - dayOfEra / 1460 + dayOfEra / 36524 - dayOfEra / 146096) / 365
  let dayOfYear := dayOfEra - (365 * yearOfEra + yearOfEra / 4 - yearOfEra / 100)
  let monthFromMarch := (5 * dayOfYear + 2) / 153
  let day := dayOfYear - (153 * monthFromMarch + 2) / 5 + 1
  let month := if monthFromMarch < 10 then monthFromMarch + 3 else monthFromMarch - 9
  let year := yearOfEra + era * 400
  (if month ≤ 2 then year + 1 else year, month, day)

/-- The number of days in a month. -/
def daysIn (year month : Int) : Int :=
  if month = 12 then 31 else dayNumber year (month + 1) 1 - dayNumber year month 1

/-! ## What there can be -/

/-- What is wrong with a year, month and day. -/
def dayFlaw? (year month day : Int) : Option DateFlaw :=
  if year < 1 ∨ 9999 < year then some (.year year)
  else if month < 1 ∨ 12 < month then some .month
  else if day < 1 ∨ daysIn year month < day then some .day
  else none

/-- What is wrong with a time of day. -/
def timeFlaw? (hour minute second microsecond : Int) : Option DateFlaw :=
  if hour < 0 ∨ 23 < hour then some .hour
  else if minute < 0 ∨ 59 < minute then some .minute
  else if second < 0 ∨ 59 < second then some .second
  else if microsecond < 0 ∨ 999999 < microsecond then some .microsecond
  else none

/-- What is wrong with a distance from universal time, in seconds. -/
def offsetFlaw? (seconds : Int) : Option DateFlaw :=
  let days := seconds.fdiv 86400
  if seconds.natAbs < 86400 then none else some (.offset days (seconds - days * 86400))

end Calendar

end LifePlan
