import HostResolver.Time.Instant
import Mathlib.Data.List.Lex

/-!
The calendar keeps the order.

Owns: that every day falls into the year and the month that are found for it, that the dates and
times of day of the years 1970 to 9999 stand in the order of their seconds, and that a point in time
in these years has a date.

Does not own: how a date is written.
-/

namespace HostResolver.Time

/-! ## Years and months -/

def daysInYear (year : Int) : Nat := if isLeapYear year then 366 else 365

theorem daysBeforeYear_succ (year : Int) :
    daysBeforeYear (year + 1) = daysBeforeYear year + daysInYear year := by
  unfold daysBeforeYear daysInYear isLeapYear
  dsimp only
  split
  · next leap =>
      simp only [Bool.and_eq_true, beq_iff_eq, Bool.or_eq_true, bne_iff_ne] at leap
      omega
  · next common =>
      simp only [Bool.and_eq_true, beq_iff_eq, Bool.or_eq_true, bne_iff_ne] at common
      omega

theorem daysBeforeYear_mono {first second : Int} (ordered : first ≤ second) :
    daysBeforeYear first ≤ daysBeforeYear second := by
  unfold daysBeforeYear
  dsimp only
  omega

/-- **Every day lies in its year.** -/
theorem yearOfDay_bounds (day : Int) :
    daysBeforeYear (yearOfDay day) ≤ day ∧ day < daysBeforeYear (yearOfDay day + 1) := by
  unfold yearOfDay
  dsimp only
  generalize isGuess : 400 * day / 146097 + 1 = guess
  -- The guess from the mean length of a year is wrong by at most one.
  split
  · next early =>
      refine ⟨?_, by rwa [Int.sub_add_cancel]⟩
      unfold daysBeforeYear
      dsimp only
      omega
  · next notEarly =>
      split
      · next late =>
          refine ⟨late, ?_⟩
          unfold daysBeforeYear
          dsimp only
          omega
      · next notLate => exact ⟨Int.not_lt.1 notEarly, Int.not_le.1 notLate⟩

theorem daysInMonth_le (year : Int) (month : Nat) : daysInMonth year month ≤ 31 := by
  unfold daysInMonth
  split
  · split <;> decide
  · split <;> decide

theorem daysBeforeMonth_succ (year : Int) {month : Nat} (positive : 1 ≤ month) :
    daysBeforeMonth year (month + 1) = daysBeforeMonth year month + daysInMonth year month := by
  cases month with
  | zero => omega
  | succ month => rfl

theorem daysBeforeMonth_mono (year : Int) {first second : Nat} (positive : 1 ≤ first)
    (earlier : first < second) :
    daysBeforeMonth year first + daysInMonth year first ≤ daysBeforeMonth year second := by
  induction second with
  | zero => omega
  | succ second inductionHypothesis =>
      rw [daysBeforeMonth_succ year (by omega)]
      rcases Nat.lt_or_eq_of_le (Nat.le_of_lt_succ earlier) with before | rfl
      · exact Nat.le_trans (inductionHypothesis before) (Nat.le_add_right _ _)
      · exact Nat.le_refl _

theorem daysBeforeMonth_twelve (year : Int) :
    daysBeforeMonth year 12 + daysInMonth year 12 = daysInYear year := by
  unfold daysInYear
  simp only [daysBeforeMonth, daysInMonth]
  cases isLeapYear year <;> rfl

/-- **Every day of a year lies in its month.** -/
theorem monthOfDay_bounds (year : Int) {fuel month offset : Nat} (positive : 1 ≤ month)
    (inYear : daysBeforeMonth year month + offset <
      daysBeforeMonth year (month + fuel) + daysInMonth year (month + fuel)) :
    month ≤ (monthOfDay year fuel month offset).1 ∧
      (monthOfDay year fuel month offset).1 ≤ month + fuel ∧
      daysBeforeMonth year (monthOfDay year fuel month offset).1 +
        (monthOfDay year fuel month offset).2 = daysBeforeMonth year month + offset ∧
      (monthOfDay year fuel month offset).2 <
        daysInMonth year (monthOfDay year fuel month offset).1 := by
  induction fuel generalizing month offset with
  | zero =>
      refine ⟨Nat.le_refl _, Nat.le_refl _, rfl, ?_⟩
      change offset < daysInMonth year month
      exact Nat.lt_of_add_lt_add_left inYear
  | succ fuel inductionHypothesis =>
      unfold monthOfDay
      split
      · next here => exact ⟨Nat.le_refl _, Nat.le_add_right _ _, rfl, here⟩
      · next later =>
          have passed := daysBeforeMonth_succ year positive
          have stillInYear : daysBeforeMonth year (month + 1) +
              (offset - daysInMonth year month) < daysBeforeMonth year (month + 1 + fuel) +
                daysInMonth year (month + 1 + fuel) := by
            rw [passed, Nat.add_right_comm month 1 fuel]
            rw [← Nat.add_assoc] at inYear
            omega
          obtain ⟨lower, upper, same, within⟩ := inductionHypothesis (by omega) stillInYear
          exact ⟨by omega, by omega, by omega, within⟩

/-! ## Dates -/

namespace Date

structure IsValid (date : Date) : Prop where
  firstMonth : 1 ≤ date.month
  lastMonth : date.month ≤ 12
  firstDay : 1 ≤ date.day
  lastDay : date.day ≤ daysInMonth date.year date.month

/-- A day in the years of dates has a date. -/
theorem exists_ofDay_eq {day : Int} (firstYear : 1 ≤ yearOfDay day)
    (lastYear : yearOfDay day ≤ maxYear) :
    ∃ date, ofDay day = .ok date ∧ date.IsValid ∧ date.toDay = day ∧
      (date.year : Int) = yearOfDay day := by
  obtain ⟨lower, upper⟩ := yearOfDay_bounds day
  generalize isYear : yearOfDay day = year at *
  rw [daysBeforeYear_succ] at upper
  have inYear : daysBeforeMonth year 1 + (day - daysBeforeYear year).toNat <
      daysBeforeMonth year (1 + 11) + daysInMonth year (1 + 11) := by
    rw [daysBeforeMonth_twelve]
    have atStart : daysBeforeMonth year 1 = 0 := rfl
    omega
  obtain ⟨firstMonth, lastMonth, same, within⟩ := monthOfDay_bounds year (Nat.le_refl 1) inYear
  have isNat : ((year.toNat : Nat) : Int) = year := Int.toNat_of_nonneg (by omega)
  have found : ofDay day = .ok ⟨year.toNat,
      (monthOfDay year 11 1 (day - daysBeforeYear year).toNat).1,
      (monthOfDay year 11 1 (day - daysBeforeYear year).toNat).2 + 1⟩ := by
    unfold ofDay
    dsimp only
    rw [isYear, if_pos ⟨firstYear, lastYear⟩]
  refine ⟨_, found, ⟨firstMonth, lastMonth, Nat.le_add_left _ _, ?_⟩, ?_, isNat⟩
  · rw [isNat]
    exact within
  · have atStart : daysBeforeMonth year 1 = 0 := rfl
    unfold toDay dayOfYear
    dsimp only
    rw [isNat]
    omega

variable {first second : Date}

theorem IsValid.dayOfYear_bounds {date : Date} (valid : date.IsValid) :
    1 ≤ date.dayOfYear ∧ date.dayOfYear ≤ daysInYear date.year := by
  have before : daysBeforeMonth date.year date.month + daysInMonth date.year date.month ≤
      daysInYear date.year := by
    rw [← daysBeforeMonth_twelve]
    rcases Nat.lt_or_eq_of_le valid.lastMonth with earlier | last
    · exact Nat.le_trans (daysBeforeMonth_mono date.year valid.firstMonth earlier)
        (Nat.le_add_right _ _)
    · rw [last]
  have firstDay := valid.firstDay
  have lastDay := valid.lastDay
  unfold dayOfYear
  omega

theorem toDay_lt_of_year_lt (valid : first.IsValid) (validLater : second.IsValid)
    (earlier : first.year < second.year) : first.toDay < second.toDay := by
  have years : daysBeforeYear ((first.year : Int) + 1) ≤ daysBeforeYear second.year :=
    daysBeforeYear_mono (by omega)
  rw [daysBeforeYear_succ] at years
  obtain ⟨_, upper⟩ := valid.dayOfYear_bounds
  obtain ⟨lower, _⟩ := validLater.dayOfYear_bounds
  unfold toDay
  omega

theorem toDay_lt_of_month_lt (valid : first.IsValid) (validLater : second.IsValid)
    (sameYear : first.year = second.year) (earlier : first.month < second.month) :
    first.toDay < second.toDay := by
  have months := daysBeforeMonth_mono first.year valid.firstMonth earlier
  have lastDay := valid.lastDay
  have firstDay := validLater.firstDay
  unfold toDay dayOfYear
  rw [← sameYear]
  omega

theorem toDay_lt_of_day_lt (sameYear : first.year = second.year)
    (sameMonth : first.month = second.month) (earlier : first.day < second.day) :
    first.toDay < second.toDay := by
  unfold toDay dayOfYear
  rw [sameYear, sameMonth]
  omega

end Date

/-! ## Moments -/

namespace Moment

structure IsValid (moment : Moment) : Prop where
  date : moment.date.IsValid
  hour : moment.hour < 24
  minute : moment.minute < 60
  second : moment.second < 60

/-- The numbers of a date and time of day, from the year on. -/
def numbers (moment : Moment) : List Nat :=
  [moment.date.year, moment.date.month, moment.date.day, moment.hour, moment.minute, moment.second]

/-- The number of seconds from the start of 1970 to the end of the year 9999. -/
def calendarEnd : Int := (daysBeforeYear (maxYear + 1) - epochDay) * secondsPerDay

example : calendarEnd = 253402300800 := by decide

/-- The year of a day from 1970 up to the end of the calendar. -/
theorem yearOfDay_within {day : Int} (since : epochDay ≤ day)
    (before : day < daysBeforeYear (maxYear + 1)) :
    1970 ≤ yearOfDay day ∧ yearOfDay day ≤ maxYear := by
  obtain ⟨lower, upper⟩ := yearOfDay_bounds day
  constructor
  · by_contra early
    have years : daysBeforeYear (yearOfDay day + 1) ≤ epochDay := daysBeforeYear_mono (by omega)
    omega
  · by_contra late
    have years : daysBeforeYear (maxYear + 1) ≤ daysBeforeYear (yearOfDay day) :=
      daysBeforeYear_mono (by omega)
    omega

/-- **A point in time before the year 10000 has a date**, from which its second is found again. -/
theorem exists_ofInstant_eq {instant : Instant} (nonneg : 0 ≤ instant.second)
    (before : instant.second < calendarEnd) :
    ∃ moment, ofInstant instant = .ok moment ∧ moment.IsValid ∧
      moment.epochSecond = instant.second ∧ 1970 ≤ moment.date.year ∧
      moment.date.year ≤ 9999 := by
  have isEnd : calendarEnd = (daysBeforeYear (maxYear + 1) - epochDay) * 86400 := rfl
  unfold ofInstant secondsPerDay
  have since : epochDay ≤ epochDay + instant.second / 86400 := by omega
  obtain ⟨firstYear, lastYear⟩ := yearOfDay_within since (by omega)
  obtain ⟨date, found, valid, isDay, isYear⟩ := Date.exists_ofDay_eq (by omega) lastYear
  rw [found]
  dsimp only
  have isLast : maxYear = 9999 := rfl
  refine ⟨_, rfl, ⟨valid, ?_, Nat.mod_lt _ (by decide), Nat.mod_lt _ (by decide)⟩, ?_, ?_, ?_⟩
  · dsimp only
    omega
  · unfold epochSecond secondsPerDay
    dsimp only
    rw [isDay]
    omega
  · dsimp only
    omega
  · dsimp only
    omega

variable {first second : Moment}

/-- **Dates and times of day stand in the order of their seconds.** -/
theorem epochSecond_lt_of_numbers_lt (valid : first.IsValid) (validLater : second.IsValid)
    (earlier : first.numbers < second.numbers) : first.epochSecond < second.epochSecond := by
  obtain ⟨validDate, hour, minute, tick⟩ := valid
  obtain ⟨validLaterDate, laterHour, laterMinute, laterTick⟩ := validLater
  have ofDays (days : first.date.toDay < second.date.toDay) :
      first.epochSecond < second.epochSecond := by
    unfold epochSecond secondsPerDay
    omega
  simp only [numbers, List.cons_lt_cons_iff] at earlier
  rcases earlier with years | ⟨sameYear, months | ⟨sameMonth, days | ⟨sameDay, times⟩⟩⟩
  · exact ofDays (Date.toDay_lt_of_year_lt validDate validLaterDate years)
  · exact ofDays (Date.toDay_lt_of_month_lt validDate validLaterDate sameYear months)
  · exact ofDays (Date.toDay_lt_of_day_lt sameYear sameMonth days)
  · have sameDate : first.date.toDay = second.date.toDay := by
      unfold Date.toDay Date.dayOfYear
      rw [sameYear, sameMonth, sameDay]
    unfold epochSecond secondsPerDay
    simp only [List.not_lt_nil, and_false, or_false] at times
    omega

theorem epochSecond_eq_of_numbers_eq (same : first.numbers = second.numbers) :
    first.epochSecond = second.epochSecond := by
  simp only [numbers, List.cons.injEq, and_true] at same
  obtain ⟨year, month, day, hour, minute, tick⟩ := same
  unfold epochSecond Date.toDay Date.dayOfYear
  rw [year, month, day, hour, minute, tick]

theorem numbers_lt_iff (valid : first.IsValid) (validOther : second.IsValid) :
    first.numbers < second.numbers ↔ first.epochSecond < second.epochSecond := by
  refine ⟨epochSecond_lt_of_numbers_lt valid validOther, fun earlier => ?_⟩
  rcases lt_trichotomy first.numbers second.numbers with less | same | more
  · exact less
  · rw [epochSecond_eq_of_numbers_eq same] at earlier
    exact absurd earlier (Int.lt_irrefl _)
  · have later := epochSecond_lt_of_numbers_lt validOther valid more
    omega

theorem numbers_eq_of_epochSecond_eq (valid : first.IsValid) (validOther : second.IsValid)
    (same : first.epochSecond = second.epochSecond) : first.numbers = second.numbers := by
  rcases lt_trichotomy first.numbers second.numbers with less | equal | more
  · have earlier := epochSecond_lt_of_numbers_lt valid validOther less
    omega
  · exact equal
  · have later := epochSecond_lt_of_numbers_lt validOther valid more
    omega

end Moment

end HostResolver.Time
