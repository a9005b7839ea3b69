import HostResolver.Document.Value
import HostResolver.Document.Yaml.Character
import HostResolver.Document.Yaml.Error

/-!
Dates and times of a document.

This module owns the reading of a date with or without a time of day. A date has a year of four
digits and a month and a day of one or two; a time of day may have a fraction of a second and say
how far its clock is from universal time. Digits of a fraction beyond the sixth are dropped.
-/

namespace HostResolver.Document.Yaml

open HostResolver.Text HostResolver.Time

/-- A time of day as it is written. -/
structure WrittenClock where
  hour : Nat
  minute : Nat
  second : Nat
  fraction : List Char
  /-- The minutes by which the clock is ahead of universal time. -/
  offset : Option Int
deriving DecidableEq, Repr

/-- A date as it is written. -/
structure WrittenDate where
  year : Nat
  month : Nat
  day : Nat
  /-- Whether month and day have two digits each. -/
  isPadded : Bool
  clock : Option WrittenClock
deriving DecidableEq, Repr

/-- The number that decimal digits write, other characters left out. -/
def digitsValue (text : List Char) : Nat := ofDigits (text.filterMap decimalDigit?)

/-- Takes a number of up to `most` digits, but no fewer than `least`. -/
def takeNumber? (least most : Nat) (text : List Char) : Option (Nat × List Char) :=
  let digits := (text.take most).takeWhile Char.isDigit
  if digits.length < least then none else some (digitsValue digits, text.drop digits.length)

/-- Takes a mark that has to come next. -/
def takeMark? (mark : Char) : List Char → Option (List Char)
  | [] => none
  | character :: rest => if character = mark then some rest else none

namespace WrittenClock

/-- Reads the distance from universal time at the end of a text; the letter Z stands for none. -/
def readOffset? (text : List Char) : Option (Option Int) :=
  match text, text.dropWhile isSpaceOrTab with
  | [], _ => some none
  | _, ['Z'] => some (some 0)
  | _, sign :: digits => do
    if sign ≠ '+' ∧ sign ≠ '-' then none
    let (hours, rest) ← takeNumber? 1 2 digits
    let (minutes, rest) ←
      match rest with
      | ':' :: rest => takeNumber? 2 2 rest
      | rest => some (0, rest)
    if !rest.isEmpty then none
    let distance : Int := hours * 60 + minutes
    return some (if sign = '-' then -distance else distance)
  | _, [] => none

def read? (text : List Char) : Option WrittenClock := do
  let (hour, rest) ← takeNumber? 1 2 text
  let (minute, rest) ← takeNumber? 2 2 (← takeMark? ':' rest)
  let (second, rest) ← takeNumber? 2 2 (← takeMark? ':' rest)
  let (fraction, rest) :=
    match rest with
    | '.' :: rest => (rest.takeWhile Char.isDigit, rest.dropWhile Char.isDigit)
    | rest => ([], rest)
  return ⟨hour, minute, second, fraction, ← readOffset? rest⟩

def microsecond (clock : WrittenClock) : Nat :=
  let digits := clock.fraction.take 6
  digitsValue (digits ++ List.replicate (6 - digits.length) '0')

end WrittenClock

namespace WrittenDate

/-- Reads a date, with a time of day behind a letter T or blanks. -/
def read? (text : List Char) : Option WrittenDate := do
  let (year, rest) ← takeNumber? 4 4 text
  let written ← takeMark? '-' rest
  let (month, rest) ← takeNumber? 1 2 written
  let (day, behind) ← takeNumber? 1 2 (← takeMark? '-' rest)
  let isPadded := written.length - behind.length == 5
  match behind with
  | [] => return ⟨year, month, day, isPadded, none⟩
  | character :: rest =>
    if character = 'T' ∨ character = 't' then
      return ⟨year, month, day, isPadded, some (← WrittenClock.read? rest)⟩
    else if isSpaceOrTab character then
      return ⟨year, month, day, isPadded, some (← WrittenClock.read? (rest.dropWhile isSpaceOrTab))⟩
    else none

/-- Whether a date is taken for one without a tag: a month or day of one digit needs a time of day
behind it. -/
def isPlain (written : WrittenDate) : Bool := written.isPadded || written.clock.isSome

def date (written : WrittenDate) : Except YamlError Date :=
  if written.year = 0 then .error .yearZero
  else if written.month = 0 ∨ 12 < written.month then .error .badMonth
  else if written.day = 0 ∨ daysInMonth written.year written.month < written.day then
    .error .badDay
  else .ok ⟨written.year, written.month, written.day⟩

def value (written : WrittenDate) : Except YamlError Value :=
  match written.clock with
  | none => written.date.map Value.date
  | some clock => do
    if let some minutes := clock.offset then
      if minutesPerDay ≤ minutes.natAbs then throw (.badOffset minutes)
    let date ← written.date
    if 23 < clock.hour then throw .badHour
    if 59 < clock.minute then throw .badMinute
    if 59 < clock.second then throw .badSecond
    return .time
      ⟨⟨date, clock.hour, clock.minute, clock.second, clock.microsecond⟩, clock.offset⟩

end WrittenDate

end HostResolver.Document.Yaml
