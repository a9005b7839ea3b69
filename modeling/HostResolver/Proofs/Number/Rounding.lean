import HostResolver.Number.Binary64
import Mathlib.Algebra.Order.Field.Power
import Mathlib.Algebra.Order.Field.Rat
import Mathlib.Tactic.FieldSimp
import Mathlib.Tactic.Linarith
import Mathlib.Tactic.Positivity
import Mathlib.Tactic.Ring

/-!
Rounding keeps the order.

Owns: that a larger fraction is not rounded to a smaller whole number, nor to a smaller
floating-point number, a half going to the even neighbour in either case.

Does not own: how far a number is from what it is rounded to.
-/

namespace HostResolver.Number

/-! ## Whole numbers -/

/-- A fraction is rounded to more than a bound if it lies beyond the half behind the bound, or on
that half where the bound is odd. -/
theorem lt_roundHalfEven_iff {numerator denominator bound : Nat} (positive : 0 < denominator) :
    bound < roundHalfEven numerator denominator ↔
      (2 * bound + 1) * denominator < 2 * numerator ∨
        ((2 * bound + 1) * denominator = 2 * numerator ∧ bound % 2 = 1) := by
  have split := Nat.div_add_mod numerator denominator
  have remainder := Nat.mod_lt numerator positive
  unfold roundHalfEven
  generalize numerator / denominator = quotient at *
  generalize numerator % denominator = rest at *
  have expanded : (2 * bound + 1) * denominator = 2 * (denominator * bound) + denominator := by
    ring
  rw [expanded, ← split]
  rcases Nat.lt_trichotomy bound quotient with below | rfl | above
  · have more : denominator * bound + denominator ≤ denominator * quotient := by
      rw [← Nat.mul_succ]
      exact Nat.mul_le_mul_left denominator below
    refine iff_of_true ?_ (Or.inl (by omega))
    dsimp only
    split_ifs <;> omega
  · dsimp only
    split_ifs <;> omega
  · have less : denominator * quotient + denominator ≤ denominator * bound := by
      rw [← Nat.mul_succ]
      exact Nat.mul_le_mul_left denominator above
    refine iff_of_false ?_ (by omega)
    dsimp only
    split_ifs <;> omega

theorem mul_le_mul_of_div_le {first second other last : Nat} (positive : 0 < second)
    (positiveLast : 0 < last) (ordered : (first : ℚ) / second ≤ (other : ℚ) / last) :
    first * last ≤ other * second := by
  rw [div_le_div_iff₀ (by exact_mod_cast positive) (by exact_mod_cast positiveLast)] at ordered
  exact_mod_cast ordered

/-- **A larger fraction is not rounded to a smaller whole number.** -/
theorem roundHalfEven_mono {first second other last : Nat} (positive : 0 < second)
    (positiveLast : 0 < last) (ordered : (first : ℚ) / second ≤ (other : ℚ) / last) :
    roundHalfEven first second ≤ roundHalfEven other last := by
  have crossed := mul_le_mul_of_div_le positive positiveLast ordered
  by_contra! smaller
  -- The half behind the smaller result lies at or below the first fraction, so below the other one.
  generalize isBound : roundHalfEven other last = bound at smaller
  have notMore : ¬bound < roundHalfEven other last := by omega
  rw [lt_roundHalfEven_iff positiveLast] at notMore
  rw [lt_roundHalfEven_iff positive] at smaller
  have scaled : (2 * bound + 1) * last * second = (2 * bound + 1) * second * last := by ring
  have cleared : 2 * (first * last) ≤ 2 * (other * second) := Nat.mul_le_mul_left 2 crossed
  rcases smaller with beyond | ⟨onHalf, odd⟩
  · refine notMore (Or.inl ?_)
    apply Nat.lt_of_mul_lt_mul_right (a := second)
    calc (2 * bound + 1) * last * second = (2 * bound + 1) * second * last := scaled
      _ < 2 * first * last := Nat.mul_lt_mul_of_pos_right beyond positiveLast
      _ ≤ 2 * other * second := by rw [Nat.mul_assoc, Nat.mul_assoc]; exact cleared
  · have atMost : (2 * bound + 1) * last ≤ 2 * other := by
      apply Nat.le_of_mul_le_mul_right _ positive
      calc (2 * bound + 1) * last * second = (2 * bound + 1) * second * last := scaled
        _ = 2 * first * last := by rw [onHalf]
        _ ≤ 2 * other * second := by rw [Nat.mul_assoc, Nat.mul_assoc]; exact cleared
    rcases Nat.lt_or_eq_of_le atMost with less | same
    · exact notMore (Or.inl less)
    · exact notMore (Or.inr ⟨same, odd⟩)

theorem roundHalfEven_one (whole : Nat) : roundHalfEven whole 1 = whole := by
  unfold roundHalfEven
  rw [Nat.mod_one, Nat.div_one]
  rfl

theorem roundHalfEven_le_of_le (bound : Nat) {numerator denominator : Nat}
    (positive : 0 < denominator)
    (below : (numerator : ℚ) / denominator ≤ bound) :
    roundHalfEven numerator denominator ≤ bound := by
  have atWhole := roundHalfEven_mono positive Nat.one_pos
    (by rwa [Nat.cast_one, div_one] : (numerator : ℚ) / denominator ≤ (bound : ℚ) / (1 : Nat))
  rwa [roundHalfEven_one] at atWhole

theorem le_roundHalfEven_of_le (bound : Nat) {numerator denominator : Nat}
    (positive : 0 < denominator)
    (above : (bound : ℚ) ≤ (numerator : ℚ) / denominator) :
    bound ≤ roundHalfEven numerator denominator := by
  have atWhole := roundHalfEven_mono Nat.one_pos positive
    (by rwa [Nat.cast_one, div_one] : (bound : ℚ) / (1 : Nat) ≤ (numerator : ℚ) / denominator)
  rwa [roundHalfEven_one] at atWhole

namespace Binary64

/-! ## Powers of two -/

theorem cast_pow_toNat {exponent : Int} (nonneg : 0 ≤ exponent) :
    ((Nat.pow 2 exponent.toNat : Nat) : ℚ) = (2 : ℚ) ^ exponent := by
  obtain ⟨power, rfl⟩ := Int.eq_ofNat_of_zero_le nonneg
  rw [Int.toNat_natCast, zpow_natCast, Nat.pow_eq, Nat.cast_pow, Nat.cast_ofNat]

/-- The value of a fraction that was scaled. -/
theorem scale_div {denominator : Nat} (positive : 0 < denominator) (numerator : Nat)
    (exponent : Int) :
    0 < (scale numerator denominator exponent).2 ∧
      ((scale numerator denominator exponent).1 : ℚ) / (scale numerator denominator exponent).2 =
        (numerator : ℚ) / denominator / (2 : ℚ) ^ exponent := by
  have isPositive : (0 : ℚ) < denominator := by exact_mod_cast positive
  unfold scale
  split
  · next nonneg =>
      have power := cast_pow_toNat nonneg
      constructor
      · exact Nat.mul_pos positive (Nat.pow_pos (by decide))
      · rw [Nat.cast_mul, power, div_div]
  · next negative =>
      have power := cast_pow_toNat (by omega : 0 ≤ -exponent)
      refine ⟨positive, ?_⟩
      rw [Nat.cast_mul, power, zpow_neg]
      field_simp

/-- The value of a magnitude. -/
theorem magnitude_div (significand : Nat) (exponent : Int) :
    0 < (magnitude significand exponent).2 ∧
      ((magnitude significand exponent).1 : ℚ) / (magnitude significand exponent).2 =
        significand * (2 : ℚ) ^ exponent := by
  unfold magnitude
  split
  · next nonneg =>
      refine ⟨Nat.one_pos, ?_⟩
      rw [Nat.cast_mul, cast_pow_toNat nonneg, Nat.cast_one, div_one]
  · next negative =>
      have power := cast_pow_toNat (by omega : 0 ≤ -exponent)
      refine ⟨Nat.pow_pos (by decide), ?_⟩
      rw [power, zpow_neg, div_inv_eq_mul]

/-! ## Exponents -/

theorem log2_bounds {value : Nat} (positive : 0 < value) :
    (2 : ℚ) ^ (value.log2 : Int) ≤ value ∧ (value : ℚ) < (2 : ℚ) ^ ((value.log2 : Int) + 1) := by
  have lower := Nat.log2_self_le (by omega : value ≠ 0)
  have upper := Nat.lt_log2_self (n := value)
  constructor
  · rw [zpow_natCast]
    exact_mod_cast lower
  · rw [← Nat.cast_succ, zpow_natCast]
    exact_mod_cast upper

theorem two_zpow_pos (exponent : Int) : (0 : ℚ) < (2 : ℚ) ^ exponent := by positivity

theorem two_zpow_le {first second : Int} (ordered : first ≤ second) :
    (2 : ℚ) ^ first ≤ (2 : ℚ) ^ second := zpow_le_zpow_right₀ (by norm_num) ordered

theorem two_zpow_add (first second : Int) :
    (2 : ℚ) ^ (first + second) = (2 : ℚ) ^ first * (2 : ℚ) ^ second :=
  zpow_add₀ (by norm_num) first second

/-- A fraction lies between the two powers of two that its logarithms give. -/
theorem log2_div_bounds {numerator denominator : Nat} (nonzero : 0 < numerator)
    (positive : 0 < denominator) :
    (2 : ℚ) ^ ((numerator.log2 : Int) - denominator.log2 - 1) < (numerator : ℚ) / denominator ∧
      (numerator : ℚ) / denominator <
        (2 : ℚ) ^ ((numerator.log2 : Int) - denominator.log2 + 1) := by
  obtain ⟨least, below⟩ := log2_bounds nonzero
  obtain ⟨leastUnder, belowUnder⟩ := log2_bounds positive
  have isPositive : (0 : ℚ) < denominator := by exact_mod_cast positive
  constructor
  · rw [lt_div_iff₀ isPositive]
    calc (2 : ℚ) ^ ((numerator.log2 : Int) - denominator.log2 - 1) * denominator
        < (2 : ℚ) ^ ((numerator.log2 : Int) - denominator.log2 - 1) *
            (2 : ℚ) ^ ((denominator.log2 : Int) + 1) :=
          mul_lt_mul_of_pos_left belowUnder (two_zpow_pos _)
      _ = (2 : ℚ) ^ (numerator.log2 : Int) := by rw [← two_zpow_add]; congr 1; ring
      _ ≤ numerator := least
  · rw [div_lt_iff₀ isPositive]
    calc (numerator : ℚ) < (2 : ℚ) ^ ((numerator.log2 : Int) + 1) := below
      _ = (2 : ℚ) ^ ((numerator.log2 : Int) - denominator.log2 + 1) *
            (2 : ℚ) ^ (denominator.log2 : Int) := by rw [← two_zpow_add]; congr 1; ring
      _ ≤ (2 : ℚ) ^ ((numerator.log2 : Int) - denominator.log2 + 1) * denominator :=
          mul_le_mul_of_nonneg_left leastUnder (two_zpow_pos _).le

theorem scale_lt_iff {denominator : Nat} (positive : 0 < denominator) (numerator : Nat)
    (exponent : Int) :
    (scale numerator denominator exponent).1 <
        Nat.pow 2 52 * (scale numerator denominator exponent).2 ↔
      (numerator : ℚ) / denominator < (2 : ℚ) ^ (52 + exponent) := by
  obtain ⟨isPositive, value⟩ := scale_div positive numerator exponent
  have scaledPositive : (0 : ℚ) < (scale numerator denominator exponent).2 := by
    exact_mod_cast isPositive
  rw [two_zpow_add, ← div_lt_iff₀ (two_zpow_pos exponent), ← value, div_lt_iff₀ scaledPositive,
    ← Nat.cast_lt (α := ℚ), Nat.cast_mul]
  norm_num

/-- The exponent of a positive fraction is the one at which it has a significand of 53 bits, or the
least one. -/
theorem exists_exponentFor_eq {numerator denominator : Nat} (nonzero : 0 < numerator)
    (positive : 0 < denominator) :
    ∃ exponent : Int, exponentFor numerator denominator = max exponent minExponent ∧
      (2 : ℚ) ^ (52 + exponent) ≤ (numerator : ℚ) / denominator ∧
      (numerator : ℚ) / denominator < (2 : ℚ) ^ (53 + exponent) := by
  obtain ⟨lower, upper⟩ := log2_div_bounds nonzero positive
  unfold exponentFor
  dsimp only
  simp only [scale_lt_iff positive]
  -- The logarithms leave two exponents, of which the comparison with two to the 52 takes the right
  -- one.
  generalize isGuess : (numerator.log2 : Int) - denominator.log2 - 52 = guess
  rw [show (numerator.log2 : Int) - denominator.log2 - 1 = 51 + guess by omega] at lower
  rw [show (numerator.log2 : Int) - denominator.log2 + 1 = 53 + guess by omega] at upper
  split
  · next small =>
      refine ⟨guess - 1, rfl, ?_, ?_⟩
      · rw [show (52 : Int) + (guess - 1) = 51 + guess by ring]
        exact lower.le
      · rw [show (53 : Int) + (guess - 1) = 52 + guess by ring]
        exact small
  · next large => exact ⟨guess, rfl, not_lt.1 large, upper⟩

/-- A positive fraction lies below two to the 53 at its exponent, and not below two to the 52 unless
its exponent is the least one. -/
theorem exponentFor_bounds {numerator denominator : Nat} (nonzero : 0 < numerator)
    (positive : 0 < denominator) :
    (numerator : ℚ) / denominator < (2 : ℚ) ^ (53 + exponentFor numerator denominator) ∧
      (exponentFor numerator denominator = minExponent ∨
        (2 : ℚ) ^ (52 + exponentFor numerator denominator) ≤ (numerator : ℚ) / denominator) := by
  obtain ⟨exponent, found, lower, upper⟩ := exists_exponentFor_eq nonzero positive
  rw [found]
  refine ⟨upper.trans_le (two_zpow_le (by omega)), ?_⟩
  rcases le_total exponent minExponent with least | more
  · exact Or.inl (max_eq_right least)
  · rw [max_eq_left more]
    exact Or.inr lower

theorem minExponent_le_exponentFor (numerator denominator : Nat) :
    minExponent ≤ exponentFor numerator denominator := le_max_right _ _

/-- The value that a positive fraction is rounded to at its exponent. -/
def rounded (numerator denominator : Nat) : ℚ :=
  roundHalfEven (scale numerator denominator (exponentFor numerator denominator)).1
      (scale numerator denominator (exponentFor numerator denominator)).2 *
    (2 : ℚ) ^ exponentFor numerator denominator

theorem rounded_le {numerator denominator : Nat} (nonzero : 0 < numerator)
    (positive : 0 < denominator) :
    rounded numerator denominator ≤ (2 : ℚ) ^ (53 + exponentFor numerator denominator) := by
  obtain ⟨upper, _⟩ := exponentFor_bounds nonzero positive
  unfold rounded
  generalize exponentFor numerator denominator = exponent at upper ⊢
  obtain ⟨scaledPositive, value⟩ := scale_div positive numerator exponent
  rw [two_zpow_add, ← div_lt_iff₀ (two_zpow_pos exponent), ← value] at upper
  have significand := roundHalfEven_le_of_le (Nat.pow 2 53) scaledPositive
    (upper.le.trans_eq (by norm_num))
  rw [two_zpow_add]
  refine mul_le_mul_of_nonneg_right ?_ (two_zpow_pos exponent).le
  exact (Nat.cast_le.2 significand).trans_eq (by norm_num)

theorem le_rounded {numerator denominator : Nat} (positive : 0 < denominator)
    (lower : (2 : ℚ) ^ (52 + exponentFor numerator denominator) ≤
      (numerator : ℚ) / denominator) :
    (2 : ℚ) ^ (52 + exponentFor numerator denominator) ≤ rounded numerator denominator := by
  unfold rounded
  generalize exponentFor numerator denominator = exponent at lower ⊢
  obtain ⟨scaledPositive, value⟩ := scale_div positive numerator exponent
  rw [two_zpow_add, ← le_div_iff₀ (two_zpow_pos exponent), ← value] at lower
  have significand := le_roundHalfEven_of_le (Nat.pow 2 52) scaledPositive
    (Eq.trans_le (by norm_num) lower)
  rw [two_zpow_add]
  refine mul_le_mul_of_nonneg_right ?_ (two_zpow_pos exponent).le
  exact Eq.trans_le (by norm_num) (Nat.cast_le.2 significand)

section

variable {first second other last : Nat} (nonzero : 0 < first) (positive : 0 < second)
  (nonzeroLast : 0 < other) (positiveLast : 0 < last)
  (ordered : (first : ℚ) / second ≤ (other : ℚ) / last)

include nonzero positive nonzeroLast positiveLast ordered

theorem exponentFor_mono : exponentFor first second ≤ exponentFor other last := by
  by_contra! smaller
  obtain ⟨_, least | lower⟩ := exponentFor_bounds nonzero positive
  · have := minExponent_le_exponentFor other last
    omega
  · obtain ⟨upper, _⟩ := exponentFor_bounds nonzeroLast positiveLast
    have powers : (2 : ℚ) ^ (53 + exponentFor other last) ≤
        (2 : ℚ) ^ (52 + exponentFor first second) := two_zpow_le (by omega)
    exact absurd ((lower.trans ordered).trans_lt (upper.trans_le powers)) (lt_irrefl _)

/-- **A larger fraction is not rounded to a smaller number.** At one exponent the significands keep
the order; otherwise a power of two stands between the two numbers. -/
theorem rounded_mono : rounded first second ≤ rounded other last := by
  rcases (exponentFor_mono nonzero positive nonzeroLast positiveLast ordered).eq_or_lt with
    same | smaller
  · unfold rounded
    rw [same]
    generalize exponentFor other last = exponent
    obtain ⟨scaledPositive, value⟩ := scale_div positive first exponent
    obtain ⟨scaledPositiveLast, valueLast⟩ := scale_div positiveLast other exponent
    refine mul_le_mul_of_nonneg_right ?_ (two_zpow_pos exponent).le
    refine Nat.cast_le.2 (roundHalfEven_mono scaledPositive scaledPositiveLast ?_)
    rw [value, valueLast]
    exact div_le_div_of_nonneg_right ordered (two_zpow_pos exponent).le
  · obtain ⟨_, least | lower⟩ := exponentFor_bounds nonzeroLast positiveLast
    · have := minExponent_le_exponentFor first second
      omega
    · calc rounded first second ≤ (2 : ℚ) ^ (53 + exponentFor first second) :=
            rounded_le nonzero positive
        _ ≤ (2 : ℚ) ^ (52 + exponentFor other last) := two_zpow_le (by omega)
        _ ≤ rounded other last := le_rounded positiveLast lower

end

/-- A positive fraction whose exponent is in the range becomes a finite number with the value that
it is rounded to, also where the significand is carried over. -/
theorem exists_ofFraction_eq {numerator denominator : Nat} (nonzero : 0 < numerator)
    (inRange : exponentFor numerator denominator < maxExponent) :
    ∃ significand exponent, ofFraction false numerator denominator =
        .finite false significand exponent ∧
      (significand : ℚ) * (2 : ℚ) ^ exponent = rounded numerator denominator := by
  unfold ofFraction rounded
  rw [if_neg (by omega)]
  generalize exponentFor numerator denominator = exponent at inRange ⊢
  dsimp only
  generalize roundHalfEven _ _ = significand
  by_cases carried : significand = Nat.pow 2 53
  · have isCarried : (significand == Nat.pow 2 53) = true := beq_iff_eq.2 carried
    refine ⟨Nat.pow 2 52, exponent + 1, ?_, ?_⟩
    · rw [isCarried, if_pos rfl, if_pos rfl, if_neg (by omega)]
    · rw [carried, two_zpow_add]
      norm_num
      ring
  · have notCarried : (significand == Nat.pow 2 53) = false := beq_false_of_ne carried
    refine ⟨significand, exponent, ?_, rfl⟩
    rw [notCarried, if_neg Bool.false_ne_true, if_neg Bool.false_ne_true, if_neg (by omega)]

end Binary64

end HostResolver.Number
