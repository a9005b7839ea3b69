import HostResolver.Text.Printable

/-!
Quoted text, as messages show a piece of input.

This module owns the rule for quoting: single quotes, or double quotes where the text holds a
single quote and no double one; the backslash and the chosen quote are escaped by a backslash, tab,
line feed and carriage return by their letter, and any other character without a visible form by
its code in two, four or eight hexadecimal digits.
-/

namespace HostResolver.Text

/-- The digit for a value below sixteen, in lower case. -/
def hexDigit (value : Nat) : Char :=
  if value < 10 then Char.ofNat (48 + value) else Char.ofNat (87 + value)

/-- The value of a hexadecimal digit, in either case. -/
def hexValue? (character : Char) : Option Nat :=
  let code := character.toNat
  if 0x30 ≤ code && code ≤ 0x39 then some (code - 0x30)
  else if 0x61 ≤ code && code ≤ 0x66 then some (code - 0x57)
  else if 0x41 ≤ code && code ≤ 0x46 then some (code - 0x37)
  else none

/-- The last `count` hexadecimal digits of a number. -/
def hexDigits : Nat → Nat → List Char
  | 0, _ => []
  | count + 1, value => hexDigits count (value / 16) ++ [hexDigit (value % 16)]

/-- The escape of a character without a visible form. -/
def escapeCode (code : Nat) : List Char :=
  if code ≤ 0xFF then '\\' :: 'x' :: hexDigits 2 code
  else if code ≤ 0xFFFF then '\\' :: 'u' :: hexDigits 4 code
  else '\\' :: 'U' :: hexDigits 8 code

def quoteChar (quoteMark character : Char) : List Char :=
  if character == quoteMark || character == '\\' then ['\\', character]
  else if character == '\t' then ['\\', 't']
  else if character == '\n' then ['\\', 'n']
  else if character == '\r' then ['\\', 'r']
  else if isPrintable character then [character]
  else escapeCode character.toNat

def singleQuote : Char := Char.ofNat 39

def doubleQuote : Char := Char.ofNat 34

def quoteMarkFor (text : List Char) : Char :=
  if text.contains singleQuote && !text.contains doubleQuote then doubleQuote else singleQuote

def quoteChars (text : List Char) : List Char :=
  let mark := quoteMarkFor text
  mark :: text.flatMap (quoteChar mark) ++ [mark]

def quoted (text : String) : String := String.ofList (quoteChars text.toList)

/-- Bytes between quotes, behind the letter b; a byte outside ASCII is escaped by its code. -/
def quotedBytes (bytes : List UInt8) : String :=
  let characters := bytes.map fun byte => Char.ofNat byte.toNat
  let mark := quoteMarkFor characters
  let inner := characters.flatMap fun character =>
    if character.toNat < 0x80 then quoteChar mark character else escapeCode character.toNat
  String.ofList ('b' :: mark :: inner ++ [mark])

/-- A text in ASCII alone: every other character is escaped by its code. -/
def escapedAscii (text : String) : String :=
  String.ofList <| text.toList.flatMap fun character =>
    if character.toNat < 0x80 then [character] else escapeCode character.toNat

end HostResolver.Text
