import HostResolver.Text.Blank

/-!
Whole numbers written in decimal digits.

This module owns the reading of a numeral: blanks around it, one sign, and digits of any script
with single underscores between them. Reading costs time that grows with the square of the length,
so a numeral of more than 4300 digits is refused whatever stands behind it.

It does not own port numbers, which admit ASCII digits alone.
-/

namespace HostResolver.Text

/-- The code points of the digits zero of the Unicode standard; the digits one to nine follow each
of them. -/
def decimalZeros : List Nat := [
  0x30, 0x660, 0x6F0, 0x7C0, 0x966, 0x9E6, 0xA66, 0xAE6, 0xB66, 0xBE6, 0xC66, 0xCE6, 0xD66, 0xDE6,
   0xE50, 0xED0, 0xF20, 0x1040, 0x1090, 0x17E0, 0x1810, 0x1946, 0x19D0, 0x1A80, 0x1A90, 0x1B50,
   0x1BB0, 0x1C40, 0x1C50, 0xA620, 0xA8D0, 0xA900, 0xA9D0, 0xA9F0, 0xAA50, 0xABF0, 0xFF10,
   0x104A0, 0x10D30, 0x11066, 0x110F0, 0x11136, 0x111D0, 0x112F0, 0x11450, 0x114D0, 0x11650,
   0x116C0, 0x11730, 0x118E0, 0x11950, 0x11C50, 0x11D50, 0x11DA0, 0x16A60, 0x16AC0, 0x16B50,
   0x1D7CE, 0x1D7D8, 0x1D7E2, 0x1D7EC, 0x1D7F6, 0x1E140, 0x1E2F0, 0x1E950, 0x1FBF0]

/-- The value of a decimal digit of any script. -/
def decimalDigit? (character : Char) : Option Nat :=
  let code := character.toNat
  if code < 0x80 then
    if 0x30 ≤ code && code ≤ 0x39 then some (code - 0x30) else none
  else (decimalZeros.find? fun first => first ≤ code && code < first + 10).map (code - ·)

/-- The number that a list of decimal digits writes. -/
def ofDigits (digits : List Nat) : Nat := digits.foldl (fun value digit => 10 * value + digit) 0

def maxDigits : Nat := 4300

/-- Why a text is not read as a whole number. -/
inductive NumeralError where
  /-- It is not written as a numeral. -/
  | malformed
  /-- It begins as a numeral of too many digits. -/
  | tooLong (digits : Nat)
deriving DecidableEq, Repr

/-- The refusal of a numeral by its length. -/
def tooManyDigits (digits : Nat) : String :=
  s!"Exceeds the limit ({maxDigits} digits) for integer string conversion: value has {digits} " ++
    "digits; use sys.set_int_max_str_digits() to increase the limit"

/-- Whether a whole number is written out: it has no more digits than are read. -/
def isWritable (value : Int) : Bool :=
  decide ((Nat.toDigits 10 value.natAbs).length ≤ maxDigits)

/-- The refusal to write a whole number of too many digits. -/
def unwritable : String :=
  s!"Exceeds the limit ({maxDigits} digits) for integer string conversion; use " ++
    "sys.set_int_max_str_digits() to increase the limit"

namespace Numeral

/-- The blanks that may surround a numeral: all but the information separators. -/
def isPadding (character : Char) : Bool :=
  isBlank character && !(0x1C ≤ character.toNat && character.toNat ≤ 0x1F)

/-- Whether a character can stand in the digits of a numeral. -/
def isPart (character : Char) : Bool := character == '_' || (decimalDigit? character).isSome

/-- Whether underscores stand only between digits, given whether a digit comes just before. -/
def wellSpaced : Bool → List Char → Bool
  | afterDigit, [] => afterDigit
  | afterDigit, character :: rest =>
    if character == '_' then afterDigit && wellSpaced false rest else wellSpaced true rest

def readMagnitude (text : List Char) : Except NumeralError Nat :=
  let part := text.takeWhile isPart
  let digits := part.filterMap decimalDigit?
  if !wellSpaced false part then .error .malformed
  else if maxDigits < digits.length then .error (.tooLong digits.length)
  else if !(text.dropWhile isPart).all isPadding then .error .malformed
  else .ok (ofDigits digits)

def read (text : List Char) : Except NumeralError Int :=
  match text.dropWhile isPadding with
  | '-' :: magnitude => (readMagnitude magnitude).map fun value => -(value : Int)
  | '+' :: magnitude => (readMagnitude magnitude).map fun value => (value : Int)
  | magnitude => (readMagnitude magnitude).map fun value => (value : Int)

end Numeral

end HostResolver.Text
