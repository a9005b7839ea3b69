import HostResolver.Number.Binary64

/-!
The shortest decimal text of a floating-point number.

This module owns the fewest decimal digits that read back as the same number, the nearest to it
among those, and the way they are written: positional notation with at least one decimal for
magnitudes from 10^-4 up to below 10^16, and otherwise one digit, the others behind a point, and an
exponent with a sign and two digits or more.
-/

namespace HostResolver.Number

/-- Decimal digits times a power of ten. -/
structure DecimalDigits where
  digits : Nat
  exponent : Int
deriving DecidableEq, Repr

namespace DecimalDigits

/-- Moves the zeros at the end of the digits into the exponent; at most `fuel` of them. -/
def trim : Nat → DecimalDigits → DecimalDigits
  | 0, decimal => decimal
  | fuel + 1, decimal =>
    if decimal.digits ≠ 0 ∧ decimal.digits % 10 = 0 then
      trim fuel ⟨decimal.digits / 10, decimal.exponent + 1⟩
    else decimal

end DecimalDigits

/-- The count of decimal digits of a number. -/
def digitCount (value : Nat) : Nat := (Nat.toDigits 10 value).length

/-- The power of ten of the leading digit of a positive fraction. -/
def leadingPower (numerator denominator : Nat) : Int :=
  if denominator ≤ numerator then (digitCount (numerator / denominator) : Int) - 1
  else -(digitCount ((denominator + numerator - 1) / numerator - 1) : Int)

/-- The numbers that read back as one floating-point number, in units of a quarter of its last
place: the number itself, the bounds around it, and whether the bounds belong to them. -/
structure RoundingInterval where
  centre : Nat
  lower : Nat
  upper : Nat
  closed : Bool
  unit : Nat × Nat

/-- The interval of a finite number. Below a power of two the numbers stand twice as close. -/
def RoundingInterval.of (significand : Nat) (exponent : Int) : RoundingInterval :=
  let narrow := significand == Nat.pow 2 52 && decide (Binary64.minExponent < exponent)
  { centre := 4 * significand
    lower := 4 * significand - (if narrow then 1 else 2)
    upper := 4 * significand + 2
    closed := significand % 2 == 0
    unit := Binary64.magnitude 1 (exponent - 2) }

/-- The best multiple of ten to `power` that lies in the interval, if there is one. -/
def RoundingInterval.onGrid? (interval : RoundingInterval) (power : Int) : Option Nat :=
  let left := interval.unit.1 * (if power < 0 then Nat.pow 10 (-power).toNat else 1)
  let right := interval.unit.2 * (if power < 0 then 1 else Nat.pow 10 power.toNat)
  let inside := fun point : Nat =>
    if interval.closed then interval.lower * left ≤ point * right ∧
      point * right ≤ interval.upper * left
    else interval.lower * left < point * right ∧ point * right < interval.upper * left
  let below := interval.centre * left / right
  let above := below + 1
  let belowInside := 0 < below ∧ inside below
  if belowInside ∧ inside above then
    let toBelow := interval.centre * left - below * right
    let toAbove := above * right - interval.centre * left
    if toBelow < toAbove then some below
    else if toAbove < toBelow then some above
    else some (if below % 2 = 0 then below else above)
  else if belowInside then some below
  else if inside above then some above
  else none

/-- The fewest digits that read back as a positive number; seventeen always do. -/
def shortestDigits (significand : Nat) (exponent : Int) : DecimalDigits :=
  let interval := RoundingInterval.of significand exponent
  let fraction := Binary64.magnitude significand exponent
  let leading := leadingPower fraction.1 fraction.2
  let grid := fun count : Nat => leading - count
  match (List.range 17).findSome? fun count =>
      (interval.onGrid? (grid count)).map fun point => (⟨point, grid count⟩ : DecimalDigits) with
  | some decimal => decimal.trim 20
  | none => ⟨significand, exponent⟩

/-- The digits of a number in characters. -/
def digitChars (value : Nat) : List Char := Nat.toDigits 10 value

def shownInt (value : Int) : String :=
  String.ofList (if value < 0 then '-' :: digitChars value.natAbs else digitChars value.natAbs)

/-- A decimal in positional notation, with at least one digit on either side of the point. -/
def DecimalDigits.positional (decimal : DecimalDigits) : List Char :=
  let digits := digitChars decimal.digits
  let point : Int := digits.length + decimal.exponent
  if point ≤ 0 then
    ['0', '.'] ++ List.replicate (-point).toNat '0' ++ digits
  else if digits.length ≤ point.toNat then
    digits ++ List.replicate (point.toNat - digits.length) '0' ++ ['.', '0']
  else digits.take point.toNat ++ '.' :: digits.drop point.toNat

/-- An exponent with its sign and at least two digits. -/
def exponentChars (power : Int) : List Char :=
  let digits := digitChars power.natAbs
  'e' :: (if power < 0 then '-' else '+') :: (if digits.length < 2 then '0' :: digits else digits)

/-- A decimal with one digit before the point and an exponent. -/
def DecimalDigits.scientific (decimal : DecimalDigits) : List Char :=
  let digits := digitChars decimal.digits
  let power : Int := digits.length + decimal.exponent - 1
  match digits with
  | [] => exponentChars power
  | [digit] => digit :: exponentChars power
  | digit :: others => digit :: '.' :: others ++ exponentChars power

/-- The shortest text that reads back as a number. -/
def Binary64.shortest : Binary64 → String
  | .nan => "nan"
  | .infinite negative => if negative then "-inf" else "inf"
  | .finite negative significand exponent =>
    let magnitude :=
      if significand = 0 then ['0', '.', '0']
      else
        let decimal := shortestDigits significand exponent
        let point : Int := digitCount decimal.digits + decimal.exponent
        if -4 < point ∧ point ≤ 16 then decimal.positional else decimal.scientific
    String.ofList (if negative then '-' :: magnitude else magnitude)

end HostResolver.Number
