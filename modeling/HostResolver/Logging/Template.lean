import HostResolver.Number.Shortest
import HostResolver.Text.Numeral

/-!
Message templates.

This module owns the pieces of a template: characters that stand for themselves, and conversions. A
conversion is a per cent sign, a name between parentheses, flags, a width, a precision and a letter;
only the sign and the letter are needed. Two per cent signs stand for one. What is missing at the
end of a template belongs to the pieces, since it shows only when the pieces before it are filled
in.
-/

namespace HostResolver.Logging

open HostResolver.Text

/-- The flags of a conversion. -/
structure Flags where
  left : Bool := false
  /-- A plus sign in front of what is not negative. -/
  plus : Bool := false
  /-- A space in front of what is not negative. -/
  blank : Bool := false
  /-- With the mark of the base, or with a point in any case. -/
  alternate : Bool := false
  /-- Filled up with zeros behind the sign. -/
  zeros : Bool := false
deriving DecidableEq, Repr

/-- A width or a precision. -/
inductive Extent where
  | absent
  | given (value : Nat)
  | argument
  /-- It is larger than can be counted. -/
  | tooBig
deriving DecidableEq, Repr

/-- The name of the argument of a conversion. -/
inductive ConversionKey where
  | absent
  | named (name : String)
  | unclosed
deriving DecidableEq, Repr

/-- A conversion. -/
structure Conversion where
  key : ConversionKey
  flags : Flags
  width : Extent
  precision : Extent
  /-- The letter and its place in the template; none if the template ends before it. -/
  letter : Option (Char × Nat)
deriving DecidableEq, Repr

/-- A piece of a template. -/
inductive Piece where
  | literal (character : Char)
  | conversion (conversion : Conversion)
deriving DecidableEq, Repr

abbrev Template := List Piece

namespace Conversion

/-- Takes a name up to the parenthesis that closes it; parentheses within it come in pairs. -/
def takeName (depth : Nat) : List Char → Option (List Char) × List Char
  | [] => (none, [])
  | character :: rest =>
    if character == ')' then
      match depth with
      | 0 => (some [], rest)
      | depth + 1 =>
        let taken := takeName depth rest
        (taken.1.map (character :: ·), taken.2)
    else
      let taken := takeName (if character == '(' then depth + 1 else depth) rest
      (taken.1.map (character :: ·), taken.2)

def takeKey : List Char → ConversionKey × List Char
  | '(' :: rest =>
    match takeName 0 rest with
    | (some name, rest) => (.named (String.ofList name), rest)
    | (none, rest) => (.unclosed, rest)
  | rest => (.absent, rest)

/-- The flags with one more, if a character is a flag. -/
def addFlag? (flags : Flags) (character : Char) : Option Flags :=
  match character with
  | '-' => some { flags with left := true }
  | '+' => some { flags with plus := true }
  | ' ' => some { flags with blank := true }
  | '#' => some { flags with alternate := true }
  | '0' => some { flags with zeros := true }
  | _ => none

def takeFlags (flags : Flags) : List Char → Flags × List Char
  | [] => (flags, [])
  | character :: rest =>
    match addFlag? flags character with
    | some more => takeFlags more rest
    | none => (flags, character :: rest)

/-- Takes a width, or a precision from behind its point, up to a largest value. -/
def takeExtent (largest : Nat) : List Char → Extent × List Char
  | '*' :: rest => (.argument, rest)
  | text =>
    let digits := text.takeWhile Char.isDigit
    let rest := text.dropWhile Char.isDigit
    let value := ofDigits (digits.filterMap decimalDigit?)
    if digits.isEmpty then (.absent, rest)
    else if largest < value then (.tooBig, rest)
    else (.given value, rest)

def maxWidth : Nat := Nat.pow 2 63 - 1

def maxPrecision : Nat := Nat.pow 2 31 - 1

/-- Takes a precision, which follows a point. -/
def takePrecision : List Char → Extent × List Char
  | '.' :: rest =>
    match takeExtent maxPrecision rest with
    | (.absent, rest) => (.given 0, rest)
    | taken => taken
  | rest => (.absent, rest)

/-- Takes the letter for the size of a number, which says nothing here. -/
def takeSize : List Char → List Char
  | character :: rest =>
    if character == 'h' || character == 'l' || character == 'L' then rest else character :: rest
  | [] => []

/-- Takes a conversion from behind its per cent sign; `length` is the length of the template. -/
def take (length : Nat) (text : List Char) : Conversion × List Char :=
  let (key, rest) := takeKey text
  let (flags, rest) := takeFlags {} rest
  let (width, rest) := takeExtent maxWidth rest
  let (precision, rest) := takePrecision rest
  match takeSize rest with
  | [] => (⟨key, flags, width, precision, none⟩, [])
  | letter :: rest =>
    (⟨key, flags, width, precision, some (letter, length - rest.length - 1)⟩, rest)

end Conversion

namespace Template

/-- Cuts a template of a length into pieces. Each piece takes a character or more, so as many steps
as there are characters are enough. -/
def pieces (length : Nat) : Nat → List Char → Template
  | 0, _ => []
  | _ + 1, [] => []
  | fuel + 1, '%' :: '%' :: rest => .literal '%' :: pieces length fuel rest
  | fuel + 1, character :: rest =>
    if character == '%' then
      let taken := Conversion.take length rest
      .conversion taken.1 :: pieces length fuel taken.2
    else .literal character :: pieces length fuel rest

def ofText (text : String) : Template := pieces text.length text.length text.toList

end Template

end HostResolver.Logging
