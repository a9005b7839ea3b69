/-!
Binary floating-point numbers of 64 bits, as exact values.

This module owns the type, correct rounding of a fraction into it, and the few operations that the
library needs. A finite number is a sign, a significand below 2^53 and a power of two, so that every
comparison and every decimal text is decided by arithmetic on natural numbers.

It does not own decimal texts, which are `HostResolver.Number.Shortest` and
`HostResolver.Number.Decimal`.
-/

namespace HostResolver.Number

/-- The nearest whole number to a fraction, a half going to the even neighbour. -/
def roundHalfEven (numerator denominator : Nat) : Nat :=
  let quotient := numerator / denominator
  let twice := 2 * (numerator % denominator)
  if twice < denominator then quotient
  else if denominator < twice then quotient + 1
  else if quotient % 2 = 0 then quotient
  else quotient + 1

/-- A floating-point number; a finite one is its significand times two to its exponent. -/
inductive Binary64 where
  | nan
  | infinite (negative : Bool)
  | finite (negative : Bool) (significand : Nat) (exponent : Int)
deriving DecidableEq, Repr, Inhabited

namespace Binary64

def minExponent : Int := -1074

def maxExponent : Int := 971

def zero (negative : Bool) : Binary64 := .finite negative 0 minExponent

/-- The fraction `numerator / denominator / 2 ^ exponent` with a natural denominator. -/
def scale (numerator denominator : Nat) (exponent : Int) : Nat × Nat :=
  if 0 ≤ exponent then (numerator, denominator * Nat.pow 2 exponent.toNat)
  else (numerator * Nat.pow 2 (-exponent).toNat, denominator)

/-- The exponent at which a positive fraction has a significand of 53 bits, or the least exponent if
that lies below it. -/
def exponentFor (numerator denominator : Nat) : Int :=
  let guess : Int := (numerator.log2 : Int) - (denominator.log2 : Int) - 52
  let scaled := scale numerator denominator guess
  let exponent := if scaled.1 < Nat.pow 2 52 * scaled.2 then guess - 1 else guess
  max exponent minExponent

/-- The floating-point number nearest to a fraction with a positive denominator, a half going to the
even significand. -/
def ofFraction (negative : Bool) (numerator denominator : Nat) : Binary64 :=
  if numerator = 0 then zero negative
  else
    let exponent := exponentFor numerator denominator
    let scaled := scale numerator denominator exponent
    let significand := roundHalfEven scaled.1 scaled.2
    let carried := significand == Nat.pow 2 53
    let significand := if carried then Nat.pow 2 52 else significand
    let exponent := if carried then exponent + 1 else exponent
    if maxExponent < exponent then .infinite negative else .finite negative significand exponent

/-- The floating-point number nearest to `digits` times ten to `exponent`. Numbers beyond the range
are settled by their count of digits, without computing the power. -/
def ofDecimal (negative : Bool) (digits : Nat) (exponent : Int) : Binary64 :=
  if digits = 0 then zero negative
  else
    let magnitude : Int := (Nat.toDigits 10 digits).length + exponent
    if 310 < magnitude then .infinite negative
    else if magnitude < -330 then zero negative
    else if 0 ≤ exponent then ofFraction negative (digits * Nat.pow 10 exponent.toNat) 1
    else ofFraction negative digits (Nat.pow 10 (-exponent).toNat)

/-- The magnitude of a finite number as a fraction. -/
def magnitude (significand : Nat) (exponent : Int) : Nat × Nat :=
  if 0 ≤ exponent then (significand * Nat.pow 2 exponent.toNat, 1)
  else (significand, Nat.pow 2 (-exponent).toNat)

def toRat? : Binary64 → Option Rat
  | .finite negative significand exponent =>
    let value := mkRat (magnitude significand exponent).1 (magnitude significand exponent).2
    some (if negative then -value else value)
  | _ => none

/-- The floating-point number nearest to a rational number; zero has the positive sign. -/
def ofRat (value : Rat) : Binary64 :=
  ofFraction (value.num < 0) value.num.natAbs value.den

def negate : Binary64 → Binary64
  | .nan => .nan
  | .infinite negative => .infinite !negative
  | .finite negative significand exponent => .finite (!negative) significand exponent

/-- Whether a number has the negative sign. -/
def isNegative : Binary64 → Bool
  | .nan => false
  | .infinite negative => negative
  | .finite negative _ _ => negative

/-- The rounded sum of two numbers. A sum of zero is negative only if both numbers are. -/
def add (left right : Binary64) : Binary64 :=
  match left.toRat?, right.toRat? with
  | some first, some second =>
    if first + second = 0 then zero (left.isNegative && right.isNegative)
    else ofRat (first + second)
  | some _, none => right
  | none, some _ => left
  | none, none => if left = right then left else .nan

def multiply (left right : Binary64) : Binary64 :=
  let negative := left.isNegative != right.isNegative
  match left.toRat?, right.toRat? with
  | some first, some second =>
    let product := first * second
    ofFraction negative product.num.natAbs product.den
  | some first, none => if first = 0 ∨ right = .nan then .nan else .infinite negative
  | none, some second => if second = 0 ∨ left = .nan then .nan else .infinite negative
  | none, none => if left = .nan ∨ right = .nan then .nan else .infinite negative

/-- The number without its fraction; none for what is not finite. -/
def truncate? : Binary64 → Option Int
  | .finite negative significand exponent =>
    let fraction := magnitude significand exponent
    let whole : Int := fraction.1 / fraction.2
    some (if negative then -whole else whole)
  | _ => none

/-- Whether a number is zero of either sign. -/
def isZero : Binary64 → Bool
  | .finite _ significand _ => significand == 0
  | _ => false

end Binary64

end HostResolver.Number
