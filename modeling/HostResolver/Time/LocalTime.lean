import HostResolver.Time.Instant

/-!
Times as clocks show them.

This module owns a date and time of day together with the distance of the clock from universal time,
if that is known, when two of them are the same, and their texts. A distance is counted in minutes,
and a clock that is ahead has a positive one.

It does not own points in time, which are `HostResolver.Time.Instant`.
-/

namespace HostResolver.Time

open HostResolver.Number

/-- A date and time of day, and the minutes by which the clock is ahead of universal time. -/
structure LocalTime where
  moment : Moment
  offset : Option Int
deriving DecidableEq, Repr

/-- The number of minutes of a day. -/
def minutesPerDay : Int := 1440

/-- A distance as days and seconds, the days rounded down, zeros left out. -/
def describedMinutes (minutes : Int) : String :=
  let days := minutes / minutesPerDay
  let seconds := minutes % minutesPerDay * 60
  let parts :=
    (if days = 0 then [] else [s!"days={shownInt days}"]) ++
      (if seconds = 0 then [] else [s!"seconds={shownInt seconds}"])
  "datetime.timedelta(" ++ (if parts.isEmpty then "0" else ", ".intercalate parts) ++ ")"

namespace LocalTime

/-- The seconds from the start of 1970 in universal time. -/
def epochSecond (time : LocalTime) : Int := time.moment.epochSecond - time.offset.getD 0 * 60

/-- Whether two times are the same: the same point in time if both clocks are known, the same date
and time of day if neither is. -/
def same (left right : LocalTime) : Bool :=
  left.offset.isSome == right.offset.isSome && left.epochSecond == right.epochSecond &&
    left.moment.microsecond == right.moment.microsecond

def shownOffset (minutes : Int) : String :=
  let sign := if minutes < 0 then "-" else "+"
  s!"{sign}{paddedNumber 2 (minutes.natAbs / 60)}:{paddedNumber 2 (minutes.natAbs % 60)}"

/-- The text of a time, with a separator between the date and the time of day. -/
def shown (time : LocalTime) (separator : String) : String :=
  let moment := time.moment
  let clock := s!"{paddedNumber 2 moment.hour}:{paddedNumber 2 moment.minute}:" ++
    paddedNumber 2 moment.second
  let fraction := if moment.microsecond = 0 then "" else "." ++ paddedNumber 6 moment.microsecond
  moment.date.shown ++ separator ++ clock ++ fraction ++
    (time.offset.map shownOffset).getD ""

/-- A time by its parts; zeros at the end are left out from the seconds on. -/
def described (time : LocalTime) : String :=
  let moment := time.moment
  let date := moment.date
  let fine :=
    if moment.microsecond ≠ 0 then [moment.second, moment.microsecond]
    else if moment.second ≠ 0 then [moment.second]
    else []
  let numbers := [date.year, date.month, date.day, moment.hour, moment.minute] ++ fine
  let zone :=
    match time.offset with
    | none => []
    | some 0 => ["tzinfo=datetime.timezone.utc"]
    | some minutes => [s!"tzinfo=datetime.timezone({describedMinutes minutes})"]
  let parts := numbers.map (fun number : Nat => shownInt number) ++ zone
  "datetime.datetime(" ++ ", ".intercalate parts ++ ")"

end LocalTime

end HostResolver.Time
