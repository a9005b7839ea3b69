import HostResolver.Logging.Layout
import HostResolver.Proofs.Number.FixedWidth
import HostResolver.Proofs.Time.Calendar
import HostResolver.Proofs.Time.Instants

/-!
Log lines in the order of their times.

Owns: the text of a time after the pattern that is used by default, and that these texts stand in
the order of the times, two of them the same exactly within one second.

Does not own: what follows the time in a line.
-/

namespace HostResolver.Logging

open HostResolver.Number HostResolver.Time

/-! ## The text of a time -/

/-- Year, month, day, hour, minute and second, with what is written behind each of them. -/
def clockColumns : List (Nat × List Char) :=
  [(4, ['-']), (2, ['-']), (2, ['T']), (2, [':']), (2, [':']), (2, ['Z'])]

/-- A field without flags, width and modifier that asks for a number. -/
theorem close_number {moment : Moment} {letter : Char} {value width : Nat}
    (isPart : moment.part? letter = some (.number value width '0'))
    (notZone : (letter == 'z') = false) :
    (FieldStart.sign.close moment letter).toList =
      List.replicate (width - (digitChars value).length) '0' ++ digitChars value := by
  have fits : FieldStart.sign.fits letter = true := rfl
  rw [FieldStart.close, notZone, fits]
  simp only [Bool.false_eq_true, if_false, if_true, isPart, FieldStart.render, FieldStart.spread,
    FieldStart.filled, FieldStart.sign, Option.getD_none, Nat.zero_sub, List.replicate_zero,
    List.nil_append, String.toList_ofList, Nat.max_zero]

theorem fillFrom_defaultTime (capacity : Nat) (moment : Moment) :
    Pattern.fillFrom capacity moment none
        ['%', 'Y', '-', '%', 'm', '-', '%', 'd', 'T', '%', 'H', ':', '%', 'M', ':', '%', 'S', 'Z'] =
      (FieldStart.sign.close moment 'Y').toList ++ ('-' ::
        ((FieldStart.sign.close moment 'm').toList ++ ('-' ::
          ((FieldStart.sign.close moment 'd').toList ++ ('T' ::
            ((FieldStart.sign.close moment 'H').toList ++ (':' ::
              ((FieldStart.sign.close moment 'M').toList ++ (':' ::
                ((FieldStart.sign.close moment 'S').toList ++ ['Z'])))))))))) := rfl

/-- The year of a date without zeros in front of it. -/
theorem padded_year {year : Nat} (fourDigits : 1000 ≤ year) (last : year ≤ 9999) :
    List.replicate (1 - (digitChars year).length) '0' ++ digitChars year = fixedDigits 4 year := by
  have long : ¬(digitChars year).length ≤ 3 := by
    rw [digitChars, Nat.length_toDigits_le_iff (by decide) (by decide)]
    omega
  have fits : year < Nat.pow 10 4 := Nat.lt_of_le_of_lt last (by decide)
  rw [← padded_digitChars (by decide) fits, Nat.sub_eq_zero_of_le (by omega),
    Nat.sub_eq_zero_of_le (by omega)]

theorem padded_two {value : Nat} (small : value < 100) :
    List.replicate (2 - (digitChars value).length) '0' ++ digitChars value = fixedDigits 2 value :=
  padded_digitChars (by decide) small

/-- All numbers of a date and time of day but the year have two digits. -/
theorem two_digits {moment : Moment} (valid : moment.IsValid) :
    moment.date.month < 100 ∧ moment.date.day < 100 ∧ moment.hour < 100 ∧ moment.minute < 100 ∧
      moment.second < 100 := by
  have lastMonth := valid.date.lastMonth
  have lastDay := valid.date.lastDay
  have short := daysInMonth_le moment.date.year moment.date.month
  exact ⟨by omega, by omega, valid.hour.trans (by decide), valid.minute.trans (by decide),
    valid.second.trans (by decide)⟩

theorem fitsColumns_numbers {moment : Moment} (valid : moment.IsValid)
    (last : moment.date.year ≤ 9999) : FitsColumns clockColumns moment.numbers := by
  obtain ⟨month, day, hour, minute, second⟩ := two_digits valid
  have year : moment.date.year < Nat.pow 10 4 := Nat.lt_of_le_of_lt last (by decide)
  exact .cons year (.cons month (.cons day (.cons hour (.cons minute (.cons second .nil)))))

/-- The pattern that is used by default, without anything for the first pass to do. -/
theorem expand_defaultTime (moment : Moment) :
    Pattern.expand moment BracketLayout.defaultTime.toList =
      ['%', 'Y', '-', '%', 'm', '-', '%', 'd', 'T', '%', 'H', ':', '%', 'M', ':', '%', 'S',
        'Z'] := by
  have pattern : BracketLayout.defaultTime.toList =
      ['%', 'Y', '-', '%', 'm', '-', '%', 'd', 'T', '%', 'H', ':', '%', 'M', ':', '%', 'S',
        'Z'] := by decide
  rw [pattern]
  rfl

theorem inColumns_numbers (moment : Moment) :
    inColumns clockColumns moment.numbers =
      fixedDigits 4 moment.date.year ++ ('-' :: (fixedDigits 2 moment.date.month ++ ('-' ::
        (fixedDigits 2 moment.date.day ++ ('T' :: (fixedDigits 2 moment.hour ++ (':' ::
          (fixedDigits 2 moment.minute ++ (':' :: (fixedDigits 2 moment.second ++ ['Z']))))))))))
      := rfl

/-- **The text of a time** after the pattern that is used by default is a row of numbers in
columns. -/
theorem fill_defaultTime {moment : Moment} (valid : moment.IsValid)
    (fourDigits : 1000 ≤ moment.date.year) (last : moment.date.year ≤ 9999) :
    Pattern.fill BracketLayout.defaultTime moment =
      String.ofList (inColumns clockColumns moment.numbers) := by
  obtain ⟨month, day, hour, minute, second⟩ := two_digits valid
  have filled (capacity : Nat) : Pattern.fillFrom capacity moment none
      (Pattern.expand moment BracketLayout.defaultTime.toList) =
        inColumns clockColumns moment.numbers := by
    rw [expand_defaultTime, fillFrom_defaultTime, inColumns_numbers,
      close_number (rfl : moment.part? 'Y' = some (.number moment.date.year 1 '0')) rfl,
      close_number (rfl : moment.part? 'm' = some (.number moment.date.month 2 '0')) rfl,
      close_number (rfl : moment.part? 'd' = some (.number moment.date.day 2 '0')) rfl,
      close_number (rfl : moment.part? 'H' = some (.number moment.hour 2 '0')) rfl,
      close_number (rfl : moment.part? 'M' = some (.number moment.minute 2 '0')) rfl,
      close_number (rfl : moment.part? 'S' = some (.number moment.second 2 '0')) rfl,
      padded_year fourDigits last, padded_two month, padded_two day, padded_two hour,
      padded_two minute, padded_two second]
  unfold Pattern.fill
  dsimp only
  rw [filled, if_pos]
  have length : (inColumns clockColumns moment.numbers).length = 20 := by
    simp only [inColumns_numbers, List.length_append, List.length_cons, length_fixedDigits,
      List.length_nil]
  rw [length]
  exact Nat.lt_of_lt_of_le (by decide : 20 < 1024) (Nat.le_max_left _ _)

/-! ## Order -/

/-- Two texts stand in order, and are the same exactly within one second. -/
structure InOrder (text later : String) (instant other : Instant) : Prop where
  le : text ≤ later
  same_iff : text = later ↔ instant.second = other.second

/-- **Two points in time before the year 10000** have texts in their order. -/
theorem exists_texts_inOrder {instant other : Instant} (nonneg : 0 ≤ instant.second)
    (ordered : instant.second ≤ other.second) (before : other.second < Moment.calendarEnd) :
    ∃ moment later, Moment.ofInstant instant = .ok moment ∧ Moment.ofInstant other = .ok later ∧
      InOrder (Pattern.fill BracketLayout.defaultTime moment)
        (Pattern.fill BracketLayout.defaultTime later) instant other := by
  obtain ⟨moment, found, valid, isSecond, since, last⟩ :=
    Moment.exists_ofInstant_eq nonneg (ordered.trans_lt before)
  obtain ⟨later, foundLater, validLater, isLater, sinceLater, lastLater⟩ :=
    Moment.exists_ofInstant_eq (nonneg.trans ordered) before
  refine ⟨moment, later, found, foundLater, ?_⟩
  rw [fill_defaultTime valid (by omega) last, fill_defaultTime validLater (by omega) lastLater]
  rcases ordered.eq_or_lt with same | less
  · have numbers : moment.numbers = later.numbers :=
      Moment.numbers_eq_of_epochSecond_eq valid validLater (by rw [isSecond, isLater, same])
    rw [numbers]
    exact ⟨String.le_refl _, iff_of_true rfl same⟩
  · have numbers : moment.numbers < later.numbers :=
      (Moment.numbers_lt_iff valid validLater).2 (by rw [isSecond, isLater]; exact less)
    have texts : String.ofList (inColumns clockColumns moment.numbers) <
        String.ofList (inColumns clockColumns later.numbers) := by
      rw [String.lt_iff, String.toList_ofList, String.toList_ofList]
      exact inColumns_lt (fitsColumns_numbers valid last) (fitsColumns_numbers validLater lastLater)
        numbers
    exact ⟨Std.le_of_lt texts, iff_of_false (Std.ne_of_lt texts) less.ne⟩

theorem timeText_of_ofStamp {layout : BracketLayout} {stamp : Stamp} {instant : Instant}
    {moment : Moment} (byDefault : layout.time = BracketLayout.defaultTime)
    (stamped : Instant.ofStamp stamp = .ok instant)
    (found : Moment.ofInstant instant = .ok moment) :
    layout.timeText stamp = .ok (Pattern.fill BracketLayout.defaultTime moment) := by
  have together : Instant.ofStamp stamp >>= Moment.ofInstant = .ok moment := by
    rw [stamped]
    exact found
  simp only [BracketLayout.timeText, together, byDefault]

/-- **Log lines stand in the order of their times.** Of two times up to the year 9999, however they
are rounded to microseconds, the texts after the pattern that is used by default stand in order, and
they are the same exactly within one second. So do those that a layout with this pattern gives for
two stamps. -/
theorem timeText_inOrder :
    (∀ rounding, Instant.Rounds rounding → ∀ first second : ℚ, 0 ≤ first → first ≤ second →
        (rounding second).second < Moment.calendarEnd →
        ∃ moment later, Moment.ofInstant (rounding first) = .ok moment ∧
          Moment.ofInstant (rounding second) = .ok later ∧
          InOrder (Pattern.fill BracketLayout.defaultTime moment)
            (Pattern.fill BracketLayout.defaultTime later) (rounding first) (rounding second)) ∧
      ∀ (layout : BracketLayout) (stamp other : Stamp) (first second : ℚ),
        layout.time = BracketLayout.defaultTime → stamp.seconds? = some first →
        other.seconds? = some second → 0 ≤ first → first ≤ second →
        (Instant.ofRat second).second < Moment.calendarEnd →
        ∃ text later, layout.timeText stamp = .ok text ∧ layout.timeText other = .ok later ∧
          InOrder text later (Instant.ofRat first) (Instant.ofRat second) := by
  have texts {rounding : ℚ → Instant} (rounds : Instant.Rounds rounding) {first second : ℚ}
      (nonneg : 0 ≤ first) (ordered : first ≤ second)
      (before : (rounding second).second < Moment.calendarEnd) :=
    exists_texts_inOrder (Instant.second_nonneg rounds nonneg)
      (Instant.second_mono rounds nonneg ordered) before
  refine ⟨fun rounding rounds first second nonneg ordered before =>
    texts rounds nonneg ordered before, ?_⟩
  intro layout stamp other first second byDefault isFirst isSecond nonneg ordered before
  obtain ⟨moment, later, found, foundLater, inOrder⟩ := texts .clock nonneg ordered before
  -- Both stamps fit the clock, since the later one lies in the calendar.
  have fits : second < (Instant.clockEnd : ℚ) := by
    have within : second.floor < Instant.clockEnd :=
      (Instant.floor_le_second (nonneg.trans ordered)).trans_lt
        (before.trans (by decide : Moment.calendarEnd < Instant.clockEnd))
    exact Rat.floor_lt_iff.1 within
  refine ⟨_, _, ?_, ?_, inOrder⟩
  · exact timeText_of_ofStamp byDefault
      (Instant.ofStamp_of_seconds? isFirst nonneg (ordered.trans_lt fits)) found
  · exact timeText_of_ofStamp byDefault
      (Instant.ofStamp_of_seconds? isSecond (nonneg.trans ordered) fits) foundLater

/-- The premises are met by the last second of a February and the first of its leap day, and by a
time that is rounded from the one into the other. -/
theorem timeText_inOrder_met :
    (∃ text later, BracketLayout.standard.timeText (.whole 951782399) = .ok text ∧
        BracketLayout.standard.timeText (.whole 951782400) = .ok later ∧
        InOrder text later (Instant.ofRat 951782399) (Instant.ofRat 951782400)) ∧
      ∃ moment later,
        Moment.ofInstant (Instant.nearest (951782400 - 1 / 3000000)) = .ok moment ∧
          Moment.ofInstant (Instant.nearest 951782400) = .ok later ∧
          InOrder (Pattern.fill BracketLayout.defaultTime moment)
            (Pattern.fill BracketLayout.defaultTime later)
            (Instant.nearest (951782400 - 1 / 3000000)) (Instant.nearest 951782400) :=
  ⟨timeText_inOrder.2 BracketLayout.standard (.whole 951782399) (.whole 951782400) 951782399
      951782400 rfl rfl rfl (by norm_num) (by norm_num) (by decide +kernel),
    timeText_inOrder.1 Instant.nearest .exact (951782400 - 1 / 3000000) 951782400 (by norm_num)
      (by norm_num) (by decide)⟩

example : BracketLayout.standard.timeText (.whole 951782400) = .ok "2000-02-29T00:00:00Z" := by
  decide +kernel

end HostResolver.Logging
