import HostResolver.Document.Yaml.Error
import HostResolver.Number.Binary64
import HostResolver.Text.Casing
import HostResolver.Text.Field

/-!
Numbers of a document.

This module owns two things: which scalars without a tag are taken for numbers, and which number a
text stands for. Whole numbers may be written in base two, eight, ten and sixteen, and like a time
of day in base sixty. Underscores do not count. A text that a tag makes a number is read more
freely than one that has no tag: it may have blanks around it, digits of any script, and an exponent
without a point.
-/

namespace HostResolver.Document.Yaml

open HostResolver.Number HostResolver.Text

/-- Whether a character is a decimal digit or an underscore. -/
def isDigitOrLine (character : Char) : Bool := character.isDigit || character == '_'

def dropLines (text : List Char) : List Char := text.filter (· != '_')

/-- A sign in front of a text: whether it is negative, and the rest. -/
def splitSign : List Char → Bool × List Char
  | '-' :: rest => (true, rest)
  | '+' :: rest => (false, rest)
  | rest => (false, rest)

/-- Whether a text starts with a decimal digit and holds digits and underscores only. -/
def isDigits (text : List Char) : Bool :=
  text.head?.any Char.isDigit && text.all isDigitOrLine

/-- Whether a field is a digit of base sixty: one decimal digit, or two below sixty. -/
def isSixtieth : List Char → Bool
  | [ones] => ones.isDigit
  | [tens, ones] => tens.isDigit && decide (tens ≤ '5') && ones.isDigit
  | _ => false

/-! ## Forms without a tag -/

/-- Whether the digits behind the mark of a base are digits of it or underscores. -/
def areDigits (isDigit : Char → Bool) (digits : List Char) : Bool :=
  !digits.isEmpty && digits.all fun character => isDigit character || character == '_'

/-- Whether a text without a tag is a whole number. -/
def isWholeText (text : List Char) : Bool :=
  match (splitSign text).2 with
  | ['0'] => true
  | '0' :: 'b' :: digits => areDigits (fun digit => digit == '0' || digit == '1') digits
  | '0' :: 'x' :: digits => areDigits (fun digit => (hexValue? digit).isSome) digits
  | '0' :: digits => areDigits (fun digit => digit.isDigit && decide (digit ≤ '7')) digits
  | magnitude =>
    match fields ':' magnitude with
    | [] => false
    | first :: others => isDigits first && others.all isSixtieth

/-- Whether a text is an exponent with a sign, or empty. -/
def isSignedExponent : List Char → Bool
  | [] => true
  | letter :: sign :: digits =>
    (letter == 'e' || letter == 'E') && (sign == '+' || sign == '-') && !digits.isEmpty &&
      digits.all Char.isDigit
  | _ => false

/-- Whether a text without a tag is a floating-point number. Its point is required, and so is the
sign of its exponent. -/
def isFloatText (text : List Char) : Bool :=
  let magnitude := (splitSign text).2
  match String.ofList magnitude with
  | ".inf" | ".Inf" | ".INF" => true
  | ".nan" | ".NaN" | ".NAN" => magnitude == text
  | _ =>
    match cutAtFirst? '.' magnitude with
    | none => false
    | some (before, behind) =>
      let exponent := behind.dropWhile isDigitOrLine
      if before.isEmpty then
        magnitude == text && behind.head?.any Char.isDigit && isSignedExponent exponent
      else
        match fields ':' before with
        | [whole] => isDigits whole && isSignedExponent exponent
        | first :: others => isDigits first && others.all isSixtieth && exponent.isEmpty
        | [] => false

/-! ## Whole numbers -/

/-- The value of a digit in a base. -/
def digitIn? (base : Nat) (character : Char) : Option Nat :=
  ((decimalDigit? character).or (hexValue? character)).filter (· < base)

/-- The digits behind the mark of a base, which may be missing. -/
def dropBaseMark (base : Nat) (text : List Char) : List Char :=
  match text with
  | '0' :: mark :: rest =>
    let mark := mark.toLower
    if (base = 2 ∧ mark = 'b') ∨ (base = 8 ∧ mark = 'o') ∨ (base = 16 ∧ mark = 'x') then rest
    else text
  | text => text

/-- The whole number that a text writes in a base. -/
def wholeInBase (base : Nat) (text : List Char) : Except YamlError Int :=
  let failure := YamlError.notWhole base (String.ofList text)
  if base = 10 then
    (Numeral.read text).mapError fun
      | .malformed => failure
      | .tooLong digits => .tooManyDigits digits
  else
    let signed := splitSign (text.dropWhile Numeral.isPadding)
    let magnitude := dropBaseMark base signed.2
    let digits := magnitude.takeWhile fun character => (digitIn? base character).isSome
    if digits.isEmpty || !(magnitude.drop digits.length).all Numeral.isPadding then .error failure
    else
      let places := digits.filterMap (digitIn? base)
      let value := places.foldl (fun value digit => base * value + digit) 0
      .ok (if signed.1 then -(value : Int) else value)

/-- The whole number of fields in base sixty, the first one the most significant. -/
def wholeOfFields (texts : List (List Char)) : Except YamlError Int := do
  let places ← texts.mapM (wholeInBase 10)
  return places.foldl (fun value place => 60 * value + place) 0

def wholeOf (text : List Char) : Except YamlError Int :=
  match dropLines text with
  | [] => .error .noNumber
  | digits =>
    let (negative, magnitude) := splitSign digits
    let found : Except YamlError Int :=
      match magnitude with
      | [] => .error .noNumber
      | ['0'] => .ok 0
      | '0' :: 'b' :: rest => wholeInBase 2 rest
      | '0' :: 'x' :: rest => wholeInBase 16 rest
      | '0' :: _ => wholeInBase 8 magnitude
      | _ =>
        if magnitude.contains ':' then wholeOfFields (fields ':' magnitude)
        else wholeInBase 10 magnitude
    found.map fun value => if negative then -value else value

/-! ## Floating-point numbers -/

def takeDecimals (text : List Char) : List Nat × List Char :=
  let digits := text.takeWhile fun character => (decimalDigit? character).isSome
  (digits.filterMap decimalDigit?, text.drop digits.length)

/-- The exponent of ten in front of a text, zero if there is none, and the rest. -/
def takeExponent (text : List Char) : Int × List Char :=
  match text with
  | letter :: rest =>
    if letter = 'e' ∨ letter = 'E' then
      let (negative, magnitude) := splitSign rest
      let (digits, behind) := takeDecimals magnitude
      if digits.isEmpty then (0, text)
      else (if negative then -(ofDigits digits : Int) else ofDigits digits, behind)
    else (0, text)
  | [] => (0, text)

/-- The floating-point number in decimal notation in front of a text, and the rest. -/
def takeDecimal? (negative : Bool) (text : List Char) : Option (Binary64 × List Char) :=
  let (whole, rest) := takeDecimals text
  let (fraction, rest) :=
    match rest with
    | '.' :: rest => takeDecimals rest
    | rest => ([], rest)
  if whole.isEmpty && fraction.isEmpty then none
  else
    let (exponent, rest) := takeExponent rest
    some (.ofDecimal negative (ofDigits (whole ++ fraction)) (exponent - fraction.length), rest)

/-- The floating-point number that a text in lower case writes, blanks around it left out. -/
def floatInDecimal (text : List Char) : Except YamlError Binary64 :=
  let padded := (text.dropWhile Numeral.isPadding).reverse.dropWhile Numeral.isPadding
  let (negative, magnitude) := splitSign padded.reverse
  match String.ofList magnitude with
  | "inf" | "infinity" => .ok (.infinite negative)
  | "nan" => .ok .nan
  | _ =>
    match takeDecimal? negative magnitude with
    | some (value, []) => .ok value
    | _ => .error (.notFloat (String.ofList text))

/-- The sum of places in base sixty, the last place first; each weight, each product and each sum is
rounded. -/
def sumSixtieths (weight : Nat) (sum : Binary64) : List Binary64 → Except YamlError Binary64
  | [] => .ok sum
  | place :: places =>
    match Binary64.ofRat weight with
    | .infinite _ => .error .tooManyPlaces
    | rounded => sumSixtieths (weight * 60) (sum.add (place.multiply rounded)) places

def floatOf (text : List Char) : Except YamlError Binary64 :=
  match (lowered (String.ofList (dropLines text))).toList with
  | [] => .error .noNumber
  | characters =>
    let (negative, magnitude) := splitSign characters
    let signed := fun value : Binary64 => if negative then value.negate else value
    match String.ofList magnitude with
    | ".inf" => .ok (signed (.infinite false))
    | ".nan" => .ok .nan
    | _ =>
      if magnitude.contains ':' then do
        let places ← (fields ':' magnitude).mapM floatInDecimal
        return signed (← sumSixtieths 1 (.zero false) places.reverse)
      else (floatInDecimal magnitude).map signed

end HostResolver.Document.Yaml
