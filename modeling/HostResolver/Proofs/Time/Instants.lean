import HostResolver.Time.Instant
import HostResolver.Proofs.Number.Rounding
import Mathlib.Data.Rat.Floor

/-!
Points in time keep the order.

Owns: that a later time does not fall into an earlier second, rounded exactly to microseconds or
the way the clock does it, and which point in time a stamp is.

Does not own: dates.
-/

namespace HostResolver.Number

theorem natAbs_num_div {value : ℚ} (nonneg : 0 ≤ value) :
    ((value.num.natAbs : Nat) : ℚ) / (value.den : Nat) = value := by
  have whole : ((value.num.natAbs : Nat) : ℚ) = (value.num : ℚ) := by
    rw [← Int.cast_natCast, Int.natAbs_of_nonneg (Rat.num_nonneg.2 nonneg)]
  rw [whole, Rat.num_div_den]

theorem Binary64.ofRat_of_nonneg {value : ℚ} (nonneg : 0 ≤ value) :
    Binary64.ofRat value = Binary64.ofFraction false value.num.natAbs value.den := by
  have notNegative : decide (value.num < 0) = false :=
    decide_eq_false (Int.not_lt.2 (Rat.num_nonneg.2 nonneg))
  rw [Binary64.ofRat, notNegative]

end HostResolver.Number

namespace HostResolver.Time

open HostResolver.Number

namespace Instant

/-! ## Microseconds -/

theorem exponentFor_million : Binary64.exponentFor million 1 = -33 := by decide

theorem roundMicroseconds_zero : roundMicroseconds 0 = 0 := by decide +kernel

theorem roundMicroseconds_million : roundMicroseconds (million : Nat) = million := by
  decide

/-- The microseconds of a positive number are rounded from the floating-point number that it is
rounded to. -/
theorem exists_roundMicroseconds_eq {value : ℚ} (positive : 0 < value)
    (bounded : value ≤ (million : Nat)) :
    ∃ numerator denominator : Nat, 0 < denominator ∧
      roundMicroseconds value = roundHalfEven numerator denominator ∧
      (numerator : ℚ) / denominator = Binary64.rounded value.num.natAbs value.den := by
  have nonzero : 0 < value.num.natAbs := Int.natAbs_pos.2 (Rat.num_pos.2 positive).ne'
  have ordered : ((value.num.natAbs : Nat) : ℚ) / (value.den : Nat) ≤
      ((million : Nat) : ℚ) / (1 : Nat) := by
    rwa [natAbs_num_div positive.le, Nat.cast_one, div_one]
  have small := Binary64.exponentFor_mono nonzero value.den_pos (by decide : 0 < million)
    Nat.one_pos ordered
  rw [exponentFor_million] at small
  have inRange : Binary64.exponentFor value.num.natAbs value.den < Binary64.maxExponent :=
    small.trans_lt (by decide)
  obtain ⟨significand, exponent, finite, isRounded⟩ :=
    Binary64.exists_ofFraction_eq nonzero inRange
  obtain ⟨denominatorPositive, magnitude⟩ := Binary64.magnitude_div significand exponent
  refine ⟨_, _, denominatorPositive, ?_, magnitude.trans isRounded⟩
  rw [roundMicroseconds, Binary64.ofRat_of_nonneg positive.le, finite]

theorem roundMicroseconds_mono {first second : ℚ} (nonneg : 0 ≤ first) (ordered : first ≤ second)
    (bounded : second ≤ (million : Nat)) :
    roundMicroseconds first ≤ roundMicroseconds second := by
  rcases nonneg.eq_or_lt with rfl | positive
  · rw [roundMicroseconds_zero]
    exact Nat.zero_le _
  · have positiveLast := positive.trans_le ordered
    obtain ⟨_, _, denominator, isFirst, firstValue⟩ :=
      exists_roundMicroseconds_eq positive (ordered.trans bounded)
    obtain ⟨_, _, denominatorLast, isSecond, secondValue⟩ :=
      exists_roundMicroseconds_eq positiveLast bounded
    rw [isFirst, isSecond]
    refine roundHalfEven_mono denominator denominatorLast ?_
    rw [firstValue, secondValue]
    refine Binary64.rounded_mono (Int.natAbs_pos.2 (Rat.num_pos.2 positive).ne') first.den_pos
      (Int.natAbs_pos.2 (Rat.num_pos.2 positiveLast).ne') second.den_pos ?_
    rwa [natAbs_num_div nonneg, natAbs_num_div positiveLast.le]

/-! ## Seconds -/

/-- The fraction of a time, in microseconds. -/
def fraction (seconds : ℚ) : ℚ := (seconds - seconds.floor) * (million : Nat)

theorem fraction_bounds (seconds : ℚ) :
    0 ≤ fraction seconds ∧ fraction seconds ≤ (million : Nat) := by
  have lower := Rat.floor_le seconds
  have upper := Rat.lt_floor_add_one seconds
  rw [Int.cast_add, Int.cast_one] at upper
  have positive : (0 : ℚ) < (million : Nat) := by exact_mod_cast (by decide : 0 < million)
  constructor
  · exact mul_nonneg (sub_nonneg.2 lower) positive.le
  · exact mul_le_of_le_one_left positive.le (by linarith)

/-- The microseconds since the start of 1970, as the clock counts them. -/
def counted (seconds : ℚ) : Int :=
  seconds.floor * million + (roundMicroseconds (fraction seconds) : Int)

theorem ofRat_of_nonneg {seconds : ℚ} (nonneg : 0 ≤ seconds) :
    ofRat seconds = ⟨counted seconds / million, (counted seconds % million).toNat⟩ := by
  have notNegative : ¬seconds < 0 := not_lt.2 nonneg
  simp only [ofRat, if_neg notNegative]
  rfl

theorem counted_bounds (seconds : ℚ) :
    seconds.floor * million ≤ counted seconds ∧
      counted seconds ≤ (seconds.floor + 1) * million := by
  obtain ⟨nonneg, bounded⟩ := fraction_bounds seconds
  have carried := roundMicroseconds_mono nonneg bounded le_rfl
  rw [roundMicroseconds_million] at carried
  unfold counted
  constructor <;> linarith [Int.natCast_nonneg (roundMicroseconds (fraction seconds)),
    Int.ofNat_le.2 carried]

theorem counted_mono {first second : ℚ} (ordered : first ≤ second) :
    counted first ≤ counted second := by
  -- Within one second the fractions decide; a fraction carries over no further than to the start
  -- of the next second, which the later time has reached.
  rcases (Rat.floor_monotone ordered).eq_or_lt with same | less
  · have micros : roundMicroseconds (fraction first) ≤ roundMicroseconds (fraction second) := by
      refine roundMicroseconds_mono (fraction_bounds first).1 ?_ (fraction_bounds second).2
      unfold fraction
      rw [same]
      exact mul_le_mul_of_nonneg_right (by linarith) (Nat.cast_nonneg _)
    unfold counted
    rw [same]
    omega
  · have carried : (first.floor + 1) * (million : Int) ≤ second.floor * million :=
      Int.mul_le_mul_of_nonneg_right less (Int.natCast_nonneg _)
    exact (counted_bounds first).2.trans (carried.trans (counted_bounds second).1)

/-- The point in time nearest to a number of seconds, half a microsecond going to the even
neighbour. -/
def nearest (seconds : ℚ) : Instant :=
  let total := roundHalfEven (seconds.num.natAbs * million) seconds.den
  ⟨((total / million : Nat) : Int), total % million⟩

/-- The two ways of rounding: that of the clock, and the exact one. -/
inductive Rounds : (ℚ → Instant) → Prop where
  | clock : Rounds ofRat
  | exact : Rounds nearest

/-- **A later time does not fall into an earlier second.** -/
theorem second_mono {rounding : ℚ → Instant} (rounds : Rounds rounding) {first second : ℚ}
    (nonneg : 0 ≤ first) (ordered : first ≤ second) :
    (rounding first).second ≤ (rounding second).second := by
  cases rounds with
  | clock =>
      rw [ofRat_of_nonneg nonneg, ofRat_of_nonneg (nonneg.trans ordered)]
      exact Int.ediv_le_ediv (by decide) (counted_mono ordered)
  | exact =>
      have total : roundHalfEven (first.num.natAbs * million) first.den ≤
          roundHalfEven (second.num.natAbs * million) second.den := by
        refine roundHalfEven_mono first.den_pos second.den_pos ?_
        rw [Nat.cast_mul, Nat.cast_mul, mul_div_right_comm, mul_div_right_comm,
          natAbs_num_div nonneg, natAbs_num_div (nonneg.trans ordered)]
        exact mul_le_mul_of_nonneg_right ordered (Nat.cast_nonneg _)
      exact Int.ofNat_le.2 (Nat.div_le_div_right total)

theorem second_nonneg {rounding : ℚ → Instant} (rounds : Rounds rounding) {seconds : ℚ}
    (nonneg : 0 ≤ seconds) : 0 ≤ (rounding seconds).second := by
  have atStart : (rounding 0).second = 0 := by
    cases rounds with
    | clock => decide +kernel
    | exact => decide +kernel
  rw [← atStart]
  exact second_mono rounds le_rfl nonneg

/-- No second before its own is that of a time. -/
theorem floor_le_second {seconds : ℚ} (nonneg : 0 ≤ seconds) :
    seconds.floor ≤ (ofRat seconds).second := by
  rw [ofRat_of_nonneg nonneg]
  exact Int.le_ediv_of_mul_le (by decide) (counted_bounds seconds).1

end Instant

/-! ## Stamps -/

/-- The number of seconds of a stamp. -/
def Stamp.seconds? : Stamp → Option ℚ
  | .whole seconds => some seconds
  | .floating seconds => seconds.toRat?

namespace Instant

theorem ofRat_intCast {seconds : Int} (nonneg : 0 ≤ seconds) :
    ofRat (seconds : ℚ) = ⟨seconds, 0⟩ := by
  have whole : counted (seconds : ℚ) = seconds * million := by
    rw [counted, fraction, Rat.floor_intCast, sub_self, zero_mul, roundMicroseconds_zero,
      Nat.cast_zero, add_zero]
  rw [ofRat_of_nonneg (by exact_mod_cast nonneg), whole,
    Int.mul_ediv_cancel _ (by decide), Int.mul_emod_left]
  rfl

/-- A stamp that fits the clock is the point in time at its number of seconds. -/
theorem ofStamp_of_seconds? {stamp : Stamp} {seconds : ℚ}
    (isSeconds : stamp.seconds? = some seconds) (nonneg : 0 ≤ seconds)
    (fits : seconds < (clockEnd : ℚ)) :
    ofStamp stamp = .ok (ofRat seconds) := by
  have lower : (-clockEnd : ℚ) ≤ seconds := by
    have positive : (0 : ℚ) ≤ clockEnd := by exact_mod_cast (by decide : 0 ≤ clockEnd)
    linarith
  cases stamp with
  | whole count =>
      have same : (count : ℚ) = seconds := Option.some.inj isSeconds
      subst same
      rw [ofRat_intCast (by exact_mod_cast nonneg), ofStamp, if_pos]
      exact ⟨by exact_mod_cast lower, by exact_mod_cast fits⟩
  | floating number =>
      have isRat : number.toRat? = some seconds := isSeconds
      cases number with
      | nan => exact nomatch isRat
      | infinite negative => exact nomatch isRat
      | finite negative significand exponent =>
          simp only [ofStamp, isRat]
          exact if_pos ⟨lower, fits⟩

end Instant

end HostResolver.Time
