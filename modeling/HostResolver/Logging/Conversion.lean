import HostResolver.Document.Value
import HostResolver.Logging.Template
import HostResolver.Number.Decimal

/-!
Values written by a conversion.

This module owns what the letter of a conversion makes of a value, and how the result is filled up
to its width. A conversion to a whole number drops the fraction of a floating-point number; the
bases eight and sixteen take whole numbers alone.
-/

namespace HostResolver.Logging

open HostResolver.Document HostResolver.Number HostResolver.Text

/-- Why a template cannot be filled in. -/
inductive TemplateError where
  /-- The template ends within a conversion. -/
  | incomplete
  /-- The template ends within a name. -/
  | incompleteKey
  | widthTooBig
  | precisionTooBig
  /-- The argument that gives a width fits no word of eight bytes. -/
  | widthBeyondWord
  /-- The argument that gives a precision fits no word of four bytes. -/
  | precisionBeyondWord
  | unsupported (letter : Char) (place : Nat)
  | tooFew
  | tooMany
  /-- A name is given, but the arguments have none. -/
  | notNamed
  | noSuchKey (name : String)
  /-- The argument is not of the kind that is wanted. -/
  | wrongKind
  /-- What is not a number has no whole part. -/
  | notNumber
  | infinite
  /-- The number is too large for a floating-point number. -/
  | tooLarge
  /-- The number is the code of no character. -/
  | noSuchCharacter
  /-- The precision of a whole number leaves no room for what stands in front of its digits. -/
  | precisionTooLarge
  /-- An argument has no text. -/
  | unwritable
  /-- The result is too long to be held. -/
  | outOfMemory
deriving DecidableEq, Repr

namespace TemplateError

/-- How a letter is shown where it is not supported. -/
def shownLetter (letter : Char) : Char :=
  if 31 ≤ letter.toNat && letter.toNat ≤ 126 then letter else '?'

/-- The words for a template that cannot be filled in; none where the arguments do not fit it. -/
def message? : TemplateError → Option String
  | .incomplete => some "incomplete format"
  | .incompleteKey => some "incomplete format key"
  | .widthTooBig => some "width too big"
  | .precisionTooBig => some "precision too big"
  | .widthBeyondWord => some "Python int too large to convert to C ssize_t"
  | .precisionBeyondWord => some "Python int too large to convert to C int"
  | .unsupported letter place =>
    let code := String.ofList (Nat.toDigits 16 letter.toNat)
    let shown := String.ofList [singleQuote, shownLetter letter, singleQuote]
    some s!"unsupported format character {shown} (0x{code}) at index {place}"
  | .notNumber => some "cannot convert float NaN to integer"
  | .infinite => some "cannot convert float infinity to integer"
  | .tooLarge => some "int too large to convert to float"
  | .noSuchCharacter => some "%c arg not in range(0x110000)"
  | .precisionTooLarge => some "precision too large"
  | .unwritable => some Text.unwritable
  | .outOfMemory => some ""
  | .tooFew | .tooMany | .notNamed | .noSuchKey _ | .wrongKind => none

end TemplateError

/-! ## Results and their width -/

/-- A result before it is filled up. -/
structure Rendered where
  /-- Whether the result is a number, which has a sign and may be filled up with zeros. -/
  isNumber : Bool
  negative : Bool
  mark : List Char
  body : List Char
deriving DecidableEq, Repr

namespace Rendered

def text (body : List Char) : Rendered := ⟨false, false, [], body⟩

def sign (rendered : Rendered) (flags : Flags) : List Char :=
  if !rendered.isNumber then []
  else if rendered.negative then ['-']
  else if flags.plus then ['+']
  else if flags.blank then [' ']
  else []

/-- The result filled up to a width. -/
def fill (rendered : Rendered) (flags : Flags) (width : Nat) : List Char :=
  let front := rendered.sign flags ++ rendered.mark
  let missing := width - (front.length + rendered.body.length)
  if flags.left then front ++ rendered.body ++ List.replicate missing ' '
  else if flags.zeros && rendered.isNumber then
    front ++ List.replicate missing '0' ++ rendered.body
  else List.replicate missing ' ' ++ front ++ rendered.body

end Rendered

/-! ## Arguments -/

/-- What a conversion writes. -/
inductive Argument where
  | value (value : Value)
  /-- Something that is no value of a document and has one text at most. -/
  | other (text : Option String)

namespace Argument

/-- An argument as it is shown inside a sentence. -/
def shown : Argument → Except TemplateError String
  | .value found => (found.shown?.map .ok).getD (.error .unwritable)
  | .other text => (text.map .ok).getD (.error .unwritable)

/-- An argument as a message quotes it. -/
def quoted : Argument → Except TemplateError String
  | .value found => (found.quoted?.map .ok).getD (.error .unwritable)
  | .other text => (text.map .ok).getD (.error .unwritable)

end Argument

/-! ## Kinds of conversions -/

namespace Conversion

def wholeOf : Value → Except TemplateError Int
  | .int value => .ok value
  | .bool value => .ok (if value then 1 else 0)
  | _ => .error .wrongKind

/-- The whole number of a value, the fraction of a floating-point number dropped. -/
def truncatedOf : Value → Except TemplateError Int
  | .float .nan => .error .notNumber
  | .float value =>
    match value.truncate? with
    | some whole => .ok whole
    | none => .error .infinite
  | value => wholeOf value

def floatOf : Value → Except TemplateError Binary64
  | .float value => .ok value
  | value => do
    match Binary64.ofRat (← wholeOf value) with
    | .infinite _ => .error .tooLarge
    | float => .ok float

/-- A whole number in a base, with at least `digits` digits. -/
def whole (base digits : Nat) (mark : List Char) (value : Int) : Rendered :=
  let body := Nat.toDigits base value.natAbs
  ⟨true, value < 0, mark, List.replicate (digits - body.length) '0' ++ body⟩

/-- The three notations of a floating-point number. -/
inductive FloatNotation where
  | fixed
  | withExponent
  | shorter
deriving DecidableEq, Repr

def floating (style : FloatNotation) (decimals : DecimalStyle) : Binary64 → Rendered
  | .nan => ⟨true, false, [], "nan".toList⟩
  | .infinite negative => ⟨true, negative, [], "inf".toList⟩
  | .finite negative significand exponent =>
    let fraction := Binary64.magnitude significand exponent
    let body :=
      match style with
      | .fixed => fixedPlaces fraction decimals
      | .withExponent => withExponent fraction decimals
      | .shorter => significantDigits fraction decimals
    ⟨true, negative, [], body⟩

def upper (rendered : Rendered) : Rendered :=
  { rendered with
    mark := rendered.mark.map Char.toUpper
    body := rendered.body.map Char.toUpper }

def cutText (precision : Option Nat) (text : String) : Rendered :=
  match precision with
  | none => .text text.toList
  | some precision => .text (text.toList.take precision)

/-- The character of a value: a text of one character, or the code of one. -/
def character : Value → Except TemplateError Rendered
  | .text text =>
    match text.toList with
    | [character] => .ok (.text [character])
    | _ => .error .wrongKind
  | value => do
    let code ← wholeOf value
    if code < 0 ∨ 0x110000 ≤ code then throw .noSuchCharacter
    return .text [if code.toNat.isValidChar then Char.ofNat code.toNat else Char.ofNat 0xFFFD]

/-- What is read of an argument that has to be a value. -/
def ofValue {α : Type} (read : Value → Except TemplateError α) :
    Argument → Except TemplateError α
  | .value value => read value
  | .other _ => .error .wrongKind

/-- The length beyond which a result is too long to be held. -/
def maxLength : Nat := Nat.pow 2 27

/-- Refuses a length that is too long. -/
def checkLength (length : Nat) : Except TemplateError Unit :=
  if maxLength < length then .error .outOfMemory else .ok ()

/-- A whole number in a base, its precision checked. Only in the base ten it may have no text. -/
def checkedWhole (base digits : Nat) (mark : List Char) (value : Int) :
    Except TemplateError Rendered := do
  if maxPrecision < digits + 3 then throw .precisionTooLarge
  if base = 10 ∧ !isWritable value then throw .unwritable
  checkLength digits
  return whole base digits mark value

/-- Whether a notation writes as many digits as the precision says. -/
def writesAll (style : FloatNotation) (decimals : DecimalStyle) : Bool :=
  style != .shorter || decimals.keepsPoint

/-- A floating-point number in a notation, its precision checked. The greatest precision counts as
none before an exponent, since one digit more than that cannot be asked for. -/
def checkedFloating (style : FloatNotation) (decimals : DecimalStyle) (value : Binary64) :
    Except TemplateError Rendered := do
  let precision :=
    if style = .withExponent ∧ decimals.precision = maxPrecision then 0 else decimals.precision
  if value.toRat?.isSome && writesAll style decimals then checkLength precision
  return floating style { decimals with precision := precision } value

/-- What a letter makes of an argument. -/
def render (flags : Flags) (precision : Option Nat) (letter : Char) (place : Nat)
    (argument : Argument) : Except TemplateError Rendered :=
  let digits := precision.getD 0
  let decimals : DecimalStyle := ⟨precision.getD 6, flags.alternate⟩
  let mark (text : String) : List Char := if flags.alternate then text.toList else []
  let truncated := ofValue truncatedOf argument
  let exact := ofValue wholeOf argument
  let float := ofValue floatOf argument
  let floating := fun style => float.bind (checkedFloating style decimals)
  match letter with
  | 's' => argument.shown.map (cutText precision)
  | 'r' => argument.quoted.map (cutText precision)
  | 'a' => argument.quoted.map fun text => cutText precision (escapedAscii text)
  | 'd' | 'i' | 'u' => truncated.bind (checkedWhole 10 digits [])
  | 'o' => exact.bind (checkedWhole 8 digits (mark "0o"))
  | 'x' => exact.bind (checkedWhole 16 digits (mark "0x"))
  | 'X' => (exact.bind (checkedWhole 16 digits (mark "0x"))).map upper
  | 'f' => floating .fixed
  | 'F' => (floating .fixed).map upper
  | 'e' => floating .withExponent
  | 'E' => (floating .withExponent).map upper
  | 'g' => floating .shorter
  | 'G' => (floating .shorter).map upper
  | 'c' => ofValue character argument
  | _ => .error (.unsupported letter place)

end Conversion

end HostResolver.Logging
