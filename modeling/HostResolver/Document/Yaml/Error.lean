import HostResolver.Text.Numeral
import HostResolver.Text.Quoted
import HostResolver.Time.LocalTime

/-!
Refusals of YAML documents.

This module owns the causes for which a document has no value. A document that is not well formed is
refused without further words; a scalar that is written like a number or a date, or is tagged as
one, but is none, says what is wrong with it.
-/

namespace HostResolver.Document.Yaml

open HostResolver.Text HostResolver.Time

/-- Why a document has no value. -/
inductive YamlError where
  /-- The document is not well formed, or asks for something that is not supported. -/
  | malformed
  /-- A code in a quoted scalar lies beyond the last code point. -/
  | noSuchCharacter
  /-- A code in a quoted scalar does not fit a word. -/
  | codeBeyondWord
  /-- A scalar that has to be a truth value is none. -/
  | notTruth
  /-- A scalar that has to be a number is empty. -/
  | noNumber
  /-- A text is no whole number in a base. -/
  | notWhole (base : Nat) (text : String)
  /-- A whole number has too many decimal digits. -/
  | tooManyDigits (digits : Nat)
  /-- A text is no floating-point number. -/
  | notFloat (text : String)
  /-- A place in base sixty is too large for a floating-point number. -/
  | tooManyPlaces
  /-- A scalar that has to be a date is none. -/
  | notDate
  /-- The year of a date is zero. -/
  | yearZero
  /-- A date has no such month. -/
  | badMonth
  /-- The month of a date has no such day. -/
  | badDay
  /-- A day has no such hour. -/
  | badHour
  /-- An hour has no such minute. -/
  | badMinute
  /-- A minute has no such second. -/
  | badSecond
  /-- A clock is a day or more away from universal time. -/
  | badOffset (minutes : Int)
deriving DecidableEq, Repr

/-- The length of a quoted text beyond which it is cut off. -/
def maxQuotedNumeral : Nat := 200

/-- The words for a scalar that is no value; none for a document that is not well formed, nor for a
scalar of a wrong kind. -/
def YamlError.message? : YamlError → Option String
  | .malformed | .notTruth | .noNumber | .notDate => none
  | .noSuchCharacter => some "chr() arg not in range(0x110000)"
  | .codeBeyondWord => some "Python int too large to convert to C int"
  | .notWhole base text =>
    let shown := String.ofList ((quoted text).toList.take maxQuotedNumeral)
    some s!"invalid literal for int() with base {base}: {shown}"
  | .tooManyDigits digits => some (Text.tooManyDigits digits)
  | .notFloat text => some s!"could not convert string to float: {quoted text}"
  | .tooManyPlaces => some "int too large to convert to float"
  | .yearZero => some "year 0 is out of range"
  | .badMonth => some "month must be in 1..12"
  | .badDay => some "day is out of range for month"
  | .badHour => some "hour must be in 0..23"
  | .badMinute => some "minute must be in 0..59"
  | .badSecond => some "second must be in 0..59"
  | .badOffset minutes =>
    some <| "offset must be a timedelta strictly between -timedelta(hours=24) and " ++
      s!"timedelta(hours=24), not {describedMinutes minutes}."

end HostResolver.Document.Yaml
