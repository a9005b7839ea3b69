import HostResolver.Number.Shortest

/-!
Days of the calendar.

This module owns dates of the Gregorian calendar, extended to all times before it was introduced,
and the counting of days and years. Day zero is the first of January of the year one.
-/

namespace HostResolver.Time

open HostResolver.Number

/-- A date. -/
structure Date where
  year : Nat
  month : Nat
  day : Nat
deriving DecidableEq, Repr

/-- Whether a year has a leap day. -/
def isLeapYear (year : Int) : Bool := year % 4 == 0 && (year % 100 != 0 || year % 400 == 0)

/-- The number of days of a month from January on, 1 to 12. -/
def daysInMonth (year : Int) (month : Nat) : Nat :=
  if month == 2 then (if isLeapYear year then 29 else 28)
  else if month == 4 || month == 6 || month == 9 || month == 11 then 30
  else 31

/-- The number of days before the first of January of a year. -/
def daysBeforeYear (year : Int) : Int :=
  let past := year - 1
  365 * past + past / 4 - past / 100 + past / 400

/-- The number of days of a year before a month. -/
def daysBeforeMonth (year : Int) : Nat → Nat
  | 0 => 0
  | 1 => 0
  | month + 2 => daysBeforeMonth year (month + 1) + daysInMonth year (month + 1)

/-- The year in which a day lies. A year cannot end later than its guess by the mean length of
years, nor begin more than one year before it. -/
def yearOfDay (day : Int) : Int :=
  let guess := (400 * day) / 146097 + 1
  if day < daysBeforeYear guess then guess - 1
  else if daysBeforeYear (guess + 1) ≤ day then guess + 1
  else guess

/-- The month in which a day of a year lies, counted from month `month` on, given the count of days
from its first one; at most `fuel` months are passed over. -/
def monthOfDay (year : Int) : Nat → Nat → Nat → Nat × Nat
  | 0, month, offset => (month, offset)
  | fuel + 1, month, offset =>
    if offset < daysInMonth year month then (month, offset)
    else monthOfDay year fuel (month + 1) (offset - daysInMonth year month)

def maxYear : Int := 9999

namespace Date

/-- The date of a day; the year of the day if it lies outside the years of dates. -/
def ofDay (day : Int) : Except Int Date :=
  let year := yearOfDay day
  if 1 ≤ year ∧ year ≤ maxYear then
    let found := monthOfDay year 11 1 (day - daysBeforeYear year).toNat
    .ok ⟨year.toNat, found.1, found.2 + 1⟩
  else .error year

/-- The count of days of the year of a date up to and with the date. -/
def dayOfYear (date : Date) : Nat := daysBeforeMonth date.year date.month + date.day

/-- The number of the day of a date. -/
def toDay (date : Date) : Int := daysBeforeYear date.year + date.dayOfYear - 1

/-- The day of the week of a date, from zero for Monday on. -/
def weekday (date : Date) : Nat := (date.toDay % 7).toNat

end Date

/-- A number with at least `width` digits. -/
def paddedNumber (width value : Nat) : String :=
  let digits := digitChars value
  String.ofList (List.replicate (width - digits.length) '0' ++ digits)

/-- A date as year, month and day. -/
def Date.shown (date : Date) : String :=
  s!"{paddedNumber 4 date.year}-{paddedNumber 2 date.month}-{paddedNumber 2 date.day}"

end HostResolver.Time
