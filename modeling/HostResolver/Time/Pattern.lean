import HostResolver.Text.Casing
import HostResolver.Text.Uppercase
import HostResolver.Time.Instant

/-!
Times written after a pattern.

This module owns the fields of a pattern: a per cent sign, flags, a width, a modifier and a letter
stand for one part of a date and time of day in universal time, with English names; only the sign
and the letter are needed. Anything else stands for itself, a field with an unknown letter included.

A pattern is filled in two passes. The first puts microseconds, offset and zone in the place of
their fields, if these have neither flags nor a width. What it puts there is read again by the
second, so it becomes part of a field that is begun before it. A text that grows far beyond its
pattern is dropped.
-/

namespace HostResolver.Time

open HostResolver.Number HostResolver.Text

/-- The names of the days of the week. -/
def dayNames : List String :=
  ["Monday", "Tuesday", "Wednesday", "Thursday", "Friday", "Saturday", "Sunday"]

def monthNames : List String :=
  ["January", "February", "March", "April", "May", "June", "July", "August", "September",
    "October", "November", "December"]

/-- The part of a date or time that a letter stands for. -/
inductive Part where
  /-- A number, with the width and the character that it is filled up to and with. -/
  | number (value width : Nat) (fill : Char)
  /-- A name, which is written in upper case on request. -/
  | name (text : String)
  /-- One half of the day, which is written in lower case on request. -/
  | half (text : String)
  /-- A date and a time with names, which are written in upper case on request. -/
  | full (text : String)
  /-- The name of a zone that is not known here. -/
  | zone
  /-- A text that is written in one way only. -/
  | text (text : String)
deriving DecidableEq, Repr

namespace Moment

private def two (value : Nat) : String := paddedNumber 2 value

def clockHour (moment : Moment) : Nat := if moment.hour % 12 = 0 then 12 else moment.hour % 12

def half (moment : Moment) : String := if moment.hour < 12 then "AM" else "PM"

/-- The name of the day of the week. -/
def dayName (moment : Moment) : String := dayNames[moment.date.weekday]?.getD ""

def monthName (moment : Moment) : String := monthNames[moment.date.month - 1]?.getD ""

def clock (moment : Moment) : String :=
  s!"{two moment.hour}:{two moment.minute}:{two moment.second}"

/-- Month, day and the last two digits of the year. -/
def shortDate (moment : Moment) : String :=
  s!"{two moment.date.month}/{two moment.date.day}/{two (moment.date.year % 100)}"

/-- The number of the week, given how many days before the date its first day lies. -/
def weekNumber (moment : Moment) (sinceFirst : Nat) : Nat :=
  (moment.date.dayOfYear + 6 - sinceFirst) / 7

/-- The number of the Thursday of the week, whose year is the year of the week. -/
def thursday (moment : Moment) : Int := moment.date.toDay - moment.date.weekday + 3

/-- The year to which the week belongs. -/
def weekYear (moment : Moment) : Int := yearOfDay moment.thursday

/-- The number of the week in the year to which it belongs. -/
def weekOfYear (moment : Moment) : Nat :=
  ((moment.thursday - daysBeforeYear moment.weekYear) / 7 + 1).toNat

def part? (moment : Moment) (letter : Char) : Option Part :=
  let date := moment.date
  match letter with
  | 'a' => some (.name (String.ofList (moment.dayName.toList.take 3)))
  | 'A' => some (.name moment.dayName)
  | 'b' | 'h' => some (.name (String.ofList (moment.monthName.toList.take 3)))
  | 'B' => some (.name moment.monthName)
  | 'c' =>
    let day := String.ofList (moment.dayName.toList.take 3)
    let month := String.ofList (moment.monthName.toList.take 3)
    let dayOfMonth := if date.day < 10 then s!" {date.day}" else s!"{date.day}"
    some (.full s!"{day} {month} {dayOfMonth} {moment.clock} {date.year}")
  | 'C' => some (.number (date.year / 100) 1 '0')
  | 'd' => some (.number date.day 2 '0')
  | 'D' | 'x' => some (.text moment.shortDate)
  | 'e' => some (.number date.day 2 ' ')
  | 'F' => some (.text s!"{date.year}-{two date.month}-{two date.day}")
  | 'g' => some (.number (moment.weekYear % 100).toNat 2 '0')
  | 'G' => some (.number moment.weekYear.toNat 1 '0')
  | 'H' => some (.number moment.hour 2 '0')
  | 'I' => some (.number moment.clockHour 2 '0')
  | 'j' => some (.number date.dayOfYear 3 '0')
  | 'k' => some (.number moment.hour 2 ' ')
  | 'l' => some (.number moment.clockHour 2 ' ')
  | 'm' => some (.number date.month 2 '0')
  | 'M' => some (.number moment.minute 2 '0')
  | 'n' => some (.text "\n")
  | 'p' => some (.half moment.half)
  | 'P' => some (.text (lowered moment.half))
  | 'r' => some (.text
      s!"{two moment.clockHour}:{two moment.minute}:{two moment.second} {moment.half}")
  | 'R' => some (.text s!"{two moment.hour}:{two moment.minute}")
  | 's' => some (.text (shownInt moment.epochSecond))
  | 'S' => some (.number moment.second 2 '0')
  | 't' => some (.text "\t")
  | 'T' | 'X' => some (.text moment.clock)
  | 'u' => some (.number (date.weekday + 1) 1 '0')
  | 'U' => some (.number (moment.weekNumber ((date.weekday + 1) % 7)) 2 '0')
  | 'V' => some (.number moment.weekOfYear 2 '0')
  | 'w' => some (.number ((date.weekday + 1) % 7) 1 '0')
  | 'W' => some (.number (moment.weekNumber date.weekday) 2 '0')
  | 'y' => some (.number (date.year % 100) 2 '0')
  | 'Y' => some (.number date.year 1 '0')
  | 'Z' => some .zone
  | '%' => some (.text "%")
  | _ => none

end Moment

/-- The beginning of a field: the sign and what follows it so far, and what that asks for. Flags
come first, then a width, then a modifier. -/
structure FieldStart where
  /-- The sign and what follows it, the last character first. -/
  raw : List Char
  /-- What a number is filled up with; none to leave it as it is. -/
  fill : Option (Option Char)
  upper : Bool
  swapped : Bool
  /-- The least width, zero if none is given. -/
  width : Nat
  /-- The letter that asks for another calendar or other digits, which are the same ones here. -/
  modifier : Option Char
deriving Repr

namespace FieldStart

def sign : FieldStart := ⟨['%'], none, false, false, 0, none⟩

/-- The field with one more flag, if a character is a flag. -/
def flag? (start : FieldStart) (character : Char) : Option FieldStart :=
  match character with
  | '-' => some { start with fill := some none }
  | '_' => some { start with fill := some (some ' ') }
  | '0' => some { start with fill := some (some '0') }
  | '^' => some { start with upper := true }
  | '#' => some { start with swapped := true }
  | _ => none

/-- The field that goes on with a character, if it does not end with it. Widths beyond `capacity`
are all the same. -/
def continue? (capacity : Nat) (start : FieldStart) (character : Char) : Option FieldStart :=
  let longer := { start with raw := character :: start.raw }
  if start.modifier.isSome then none
  else if character == 'E' || character == 'O' then some { longer with modifier := character }
  else
    match (if start.width = 0 then longer.flag? character else none) with
    | some flagged => some flagged
    | none =>
      if character.isDigit then
        let width := 10 * start.width + (character.toNat - '0'.toNat)
        some { longer with width := min width capacity }
      else none

/-- The letters that can stand behind a modifier. -/
def lettersBehind (modifier : Char) : String :=
  if modifier == 'E' then "cnprstuxyCPRTXYZ%" else "bdeghjklmnprstuwyBCGHIMPRSTUVWZ%"

/-- Whether the modifier of a field fits a letter. -/
def fits (start : FieldStart) (letter : Char) : Bool :=
  start.modifier.all fun modifier => (lettersBehind modifier).contains letter

/-- A text in the width of its field. -/
def spread (start : FieldStart) (text : List Char) : String :=
  let fill := if start.fill == some (some '0') then '0' else ' '
  String.ofList (List.replicate (start.width - text.length) fill ++ text)

/-- The digits of a number filled up as its field asks for. -/
def filled (start : FieldStart) (value width : Nat) (fill : Char) : List Char :=
  let digits := digitChars value
  match start.fill.getD (some fill) with
  | none => digits
  | some fill => List.replicate (max width start.width - digits.length) fill ++ digits

/-- A text in upper case, character by character. -/
def raisedChars (text : List Char) : List Char := text.map upperChar

/-- A part as its field asks for. -/
def render (start : FieldStart) : Part → String
  | .number value width fill => start.spread (start.filled value width fill)
  | .name text =>
    start.spread (if start.upper || start.swapped then raisedChars text.toList else text.toList)
  | .half text => start.spread (if start.swapped then lowered text else text).toList
  | .full text => start.spread (if start.upper then raisedChars text.toList else text.toList)
  | .zone => if start.fill == some none then "" else start.spread []
  | .text text => start.spread text.toList

/-- Whether a field that stands for nothing is written in upper case. -/
def raisesUnknown (start : FieldStart) : Bool :=
  start.upper || (start.swapped && (start.raw.head? == some 'b' || start.raw.head? == some 'h'))

/-- A field that stands for nothing, as it is written. -/
def asWritten (start : FieldStart) : String :=
  let text := start.raw.reverse
  start.spread (if start.raisesUnknown then raisedChars text else text)

/-- A field with the letter of a part, or as it is written. -/
def close (start : FieldStart) (moment : Moment) (letter : Char) : String :=
  if letter == 'z' then ""
  else
    match (if start.fits letter then moment.part? letter else none) with
    | some part => start.render part
    | none => asWritten { start with raw := letter :: start.raw }

end FieldStart

namespace Pattern

/-- The first pass: microseconds, offset and zone. A pattern ends at a NUL character. -/
def expand (moment : Moment) : List Char → List Char
  | [] => []
  | '%' :: 'f' :: rest => (paddedNumber 6 moment.microsecond).toList ++ expand moment rest
  | '%' :: 'z' :: rest => "+0000".toList ++ expand moment rest
  | '%' :: 'Z' :: rest => "UTC".toList ++ expand moment rest
  | '%' :: character :: rest =>
    if character.toNat = 0 then ['%'] else '%' :: character :: expand moment rest
  | character :: rest => if character.toNat = 0 then [] else character :: expand moment rest

/-- The second pass: all other fields, given the one that has begun. -/
def fillFrom (capacity : Nat) (moment : Moment) : Option FieldStart → List Char → List Char
  | none, [] => []
  | some start, [] => start.asWritten.toList
  | none, character :: rest =>
    if character == '%' then fillFrom capacity moment (some .sign) rest
    else character :: fillFrom capacity moment none rest
  | some start, character :: rest =>
    match start.continue? capacity character with
    | some longer => fillFrom capacity moment (some longer) rest
    | none => (start.close moment character).toList ++ fillFrom capacity moment none rest

/-- The length that a text does not reach: a power of two, at least 1024 and at least 256 times the
length of the pattern. -/
def capacity (pattern : List Char) : Nat := max 1024 (256 * pattern.length).nextPowerOfTwo

def fill (pattern : String) (moment : Moment) : String :=
  let expanded := expand moment pattern.toList
  let text := fillFrom (capacity expanded) moment none expanded
  if text.length < capacity expanded then String.ofList text else ""

end Pattern

end HostResolver.Time
