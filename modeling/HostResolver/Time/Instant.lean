import HostResolver.Number.Binary64
import HostResolver.Time.Date

/-!
Points in time.

This module owns times as seconds since the start of the year 1970, their rounding to microseconds,
and the date and time of day that they fall on in universal time. Leap seconds do not count.

The fraction of a time is multiplied before it is rounded, and the product has the precision of a
floating-point number: a fraction that lies closer to half a microsecond than that is taken for half
a microsecond.
-/

namespace HostResolver.Time

open HostResolver.Number

/-- A time as it is given: whole seconds, or a floating-point number of them. -/
inductive Stamp where
  | whole (seconds : Int)
  | floating (seconds : Binary64)
deriving DecidableEq, Repr

/-- The milliseconds of the second of a stamp, as a floating-point number without a fraction. They
have the sign of the stamp. -/
def Stamp.milliseconds : Stamp → Binary64
  | .whole _ => .ofRat 0
  | .floating seconds =>
    match seconds.toRat?, seconds.truncate? with
    | some value, some truncated =>
      .ofRat (((Binary64.ofRat ((value - truncated) * 1000)).truncate?.getD 0 : Int) : Rat)
    | _, _ => .ofRat 0

/-- Why a time falls on no date. -/
inductive TimeError where
  /-- The time is not a number. -/
  | notNumber
  /-- The time does not fit the clock. -/
  | beyondClock
  /-- The year of the time does not fit a word. -/
  | beyondCalendar
  /-- The year of the time lies outside the years of dates. -/
  | yearOutOfRange (year : Int)
deriving DecidableEq, Repr

/-- The words for a time that falls on no date. -/
def TimeError.message : TimeError → String
  | .notNumber => "Invalid value NaN (not a number)"
  | .beyondClock => "timestamp out of range for platform time_t"
  | .beyondCalendar => "[Errno 75] Value too large for defined data type"
  | .yearOutOfRange year => s!"year {shownInt year} is out of range"

/-- A point in time. -/
structure Instant where
  /-- The whole seconds since the start of 1970, rounded down. -/
  second : Int
  /-- The microseconds of the second, below one million. -/
  microsecond : Nat
deriving DecidableEq, Repr

namespace Instant

/-- The number of microseconds in a second. -/
def million : Nat := 1000000

/-- A number below one million with the precision of a floating-point number, rounded to a whole
number, a half going to the even neighbour. -/
def roundMicroseconds (value : Rat) : Nat :=
  match Binary64.ofRat value with
  | .finite _ significand exponent =>
    let fraction := Binary64.magnitude significand exponent
    roundHalfEven fraction.1 fraction.2
  | _ => 0

/-- The point in time at a number of seconds. -/
def ofRat (seconds : Rat) : Instant :=
  let magnitude : Rat := if seconds < 0 then -seconds else seconds
  let whole := magnitude.floor
  let micro : Int := roundMicroseconds ((magnitude - whole) * million)
  let total := whole * million + micro
  let signed := if seconds < 0 then -total else total
  ⟨signed / million, (signed % million).toNat⟩

/-- The last second of the clock, and the first one but one. -/
def clockEnd : Int := Int.pow 2 63

/-- The point in time of a stamp. -/
def ofStamp : Stamp → Except TimeError Instant
  | .whole seconds =>
    if -clockEnd ≤ seconds ∧ seconds < clockEnd then .ok ⟨seconds, 0⟩ else .error .beyondClock
  | .floating .nan => .error .notNumber
  | .floating seconds =>
    match seconds.toRat? with
    | none => .error .beyondClock
    | some value =>
      if -clockEnd ≤ value ∧ value < clockEnd then .ok (ofRat value) else .error .beyondClock

end Instant

/-- A date and a time of day. -/
structure Moment where
  date : Date
  hour : Nat
  minute : Nat
  second : Nat
  microsecond : Nat
deriving DecidableEq, Repr

namespace Moment

/-- The number of seconds of a day. -/
def secondsPerDay : Int := 86400

/-- The number of the first day of 1970. -/
def epochDay : Int := daysBeforeYear 1970

/-- The years that a word can hold end with this one if they are counted from 1900. Counted from
zero, the last ones of them wrap around. -/
def lastCountedYear : Int := Int.pow 2 31 - 1 + 1900

/-- The date and time of day of a point in time. -/
def ofInstant (instant : Instant) : Except TimeError Moment :=
  match Date.ofDay (epochDay + instant.second / secondsPerDay) with
  | .error year =>
    if lastCountedYear < year ∨ year < 1900 - Int.pow 2 31 then .error .beyondCalendar
    else .error (.yearOutOfRange (year.bmod (Nat.pow 2 32)))
  | .ok date =>
    let second := (instant.second % secondsPerDay).toNat
    .ok ⟨date, second / 3600, second / 60 % 60, second % 60, instant.microsecond⟩

/-- The seconds since the start of 1970. -/
def epochSecond (moment : Moment) : Int :=
  (moment.date.toDay - epochDay) * secondsPerDay + moment.hour * 3600 + moment.minute * 60 +
    moment.second

end Moment

end HostResolver.Time
