import HostResolver.Number.Shortest

/-!
Decimal texts of a chosen precision.

This module owns the three notations of a floating-point magnitude that a message can ask for:
fixed places, one digit with an exponent, and the shorter of the two. Digits are rounded from the
exact value, a half going to the even digit. The sign is left to the caller.

A fraction of a floating-point number ends before its 1100th place, and so do its digits from the
first one on; the digits behind that are zeros and are written without being computed.
-/

namespace HostResolver.Number

/-- How a decimal text is written. -/
structure DecimalStyle where
  /-- The count of digits behind the point, or of all digits. -/
  precision : Nat
  /-- Whether the point and the zeros at the end are kept. -/
  keepsPoint : Bool

/-- Decimal digits with the point before the last `places` of them. -/
def withPoint (digits places : Nat) (keepsPoint : Bool) : List Char :=
  let text := digitChars digits
  let padded := List.replicate (places + 1 - text.length) '0' ++ text
  let whole := padded.take (padded.length - places)
  let fraction := padded.drop (padded.length - places)
  if fraction.isEmpty && !keepsPoint then whole else whole ++ '.' :: fraction

/-- Takes the zeros at the end of a fraction away, and the point if nothing is left behind it. -/
def dropFractionZeros (text : List Char) : List Char :=
  if text.contains '.' then
    let kept := text.reverse.dropWhile (· == '0')
    (if kept.head? == some '.' then kept.tail else kept).reverse
  else text

/-- The count of digits that are computed. -/
def maxPlaces : Nat := 1100

def fixedPlaces (fraction : Nat × Nat) (style : DecimalStyle) : List Char :=
  let places := min style.precision maxPlaces
  withPoint (roundHalfEven (fraction.1 * Nat.pow 10 places) fraction.2) places style.keepsPoint ++
    List.replicate (style.precision - places) '0'

/-- The digits of a fraction, rounded to `places + 1` of them, and the power of ten of the first. -/
def leadingDigits (fraction : Nat × Nat) (places : Nat) : Nat × Int :=
  if fraction.1 = 0 then (0, 0)
  else
    let power := leadingPower fraction.1 fraction.2
    let shift : Int := places - power
    let digits :=
      if 0 ≤ shift then roundHalfEven (fraction.1 * Nat.pow 10 shift.toNat) fraction.2
      else roundHalfEven fraction.1 (fraction.2 * Nat.pow 10 (-shift).toNat)
    if digits = Nat.pow 10 (places + 1) then (Nat.pow 10 places, power + 1) else (digits, power)

/-- A fraction with one digit before the point and an exponent. -/
def withExponent (fraction : Nat × Nat) (style : DecimalStyle) : List Char :=
  let places := min style.precision maxPlaces
  let leading := leadingDigits fraction places
  withPoint leading.1 places style.keepsPoint ++
    List.replicate (style.precision - places) '0' ++ exponentChars leading.2

/-- A fraction with a count of significant digits, in whichever notation suits its size. -/
def significantDigits (fraction : Nat × Nat) (style : DecimalStyle) : List Char :=
  let count := max 1 style.precision
  let computed := min count maxPlaces
  let shown := if style.keepsPoint then count else computed
  let leading := leadingDigits fraction (computed - 1)
  if -4 ≤ leading.2 ∧ leading.2 < count then
    let places := ((shown : Int) - 1 - leading.2).toNat
    let text := fixedPlaces fraction ⟨places, style.keepsPoint⟩
    if style.keepsPoint then text else dropFractionZeros text
  else
    let text :=
      withPoint leading.1 (computed - 1) style.keepsPoint ++
        List.replicate (shown - computed) '0'
    (if style.keepsPoint then text else dropFractionZeros text) ++ exponentChars leading.2

end HostResolver.Number
