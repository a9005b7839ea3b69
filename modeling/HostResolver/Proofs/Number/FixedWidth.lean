import HostResolver.Number.Shortest
import Mathlib.Data.List.Lex

/-!
Numbers of a fixed width.

Owns: that numbers which are filled up with zeros to one width stand in their order as texts, and
that rows of such numbers with the same texts between them stand in the order of the rows.

Does not own: which numbers fit a width.
-/

namespace HostResolver.Number

/-- The last decimal digits of a number, as many as the width. -/
def fixedDigits : Nat → Nat → List Char
  | 0, _ => []
  | width + 1, value => fixedDigits width (value / 10) ++ [Nat.digitChar (value % 10)]

theorem fixedDigits_zero (width : Nat) : fixedDigits width 0 = List.replicate width '0' := by
  induction width with
  | zero => rfl
  | succ width inductionHypothesis =>
      rw [List.replicate_succ', ← inductionHypothesis]
      rfl

theorem length_fixedDigits (width value : Nat) : (fixedDigits width value).length = width := by
  induction width generalizing value with
  | zero => rfl
  | succ width inductionHypothesis =>
      rw [fixedDigits, List.length_append, inductionHypothesis, List.length_singleton]

/-- The digits of a number that fits a width, filled up with zeros. -/
theorem padded_digitChars {width value : Nat} (positive : 0 < width)
    (fits : value < Nat.pow 10 width) :
    List.replicate (width - (digitChars value).length) '0' ++ digitChars value =
      fixedDigits width value := by
  unfold digitChars
  induction width generalizing value with
  | zero => omega
  | succ width inductionHypothesis =>
      by_cases small : value < 10
      · rw [Nat.toDigits_of_lt_base small, fixedDigits, Nat.div_eq_of_lt small, fixedDigits_zero,
          Nat.mod_eq_of_lt small]
        rfl
      · rw [Nat.toDigits_of_base_le (by decide) (by omega), fixedDigits]
        have widthPositive : 0 < width := by
          rcases Nat.eq_zero_or_pos width with rfl | more
          · exact absurd fits small
          · exact more
        have fitsLess : value / 10 < Nat.pow 10 width := by
          rw [Nat.div_lt_iff_lt_mul (by decide)]
          exact fits
        rw [← inductionHypothesis widthPositive fitsLess, List.length_append, List.length_singleton,
          Nat.add_sub_add_right, List.append_assoc]

theorem digitChar_lt {first second : Nat} (ordered : first < second) (digit : second < 10) :
    Nat.digitChar first < Nat.digitChar second := by
  have digits : ∀ other : Fin 10, ∀ one : Fin 10, one < other →
      Nat.digitChar one < Nat.digitChar other := by decide
  exact digits ⟨second, digit⟩ ⟨first, by omega⟩ ordered

/-- **Numbers of one width stand in their order**, whatever follows them. -/
theorem fixedDigits_append_lt {width first second : Nat} (ordered : first < second)
    (fits : second < Nat.pow 10 width) (behind other : List Char) :
    fixedDigits width first ++ behind < fixedDigits width second ++ other := by
  induction width generalizing first second behind other with
  | zero =>
      have none : second < 1 := fits
      omega
  | succ width inductionHypothesis =>
      rw [fixedDigits, fixedDigits, List.append_assoc, List.append_assoc]
      -- The last digits decide only if the digits in front of them are the same.
      rcases Nat.lt_or_eq_of_le (Nat.div_le_div_right ordered.le : first / 10 ≤ second / 10) with
        less | same
      · refine inductionHypothesis less ?_ _ _
        rw [Nat.div_lt_iff_lt_mul (by decide)]
        exact fits
      · rw [same]
        refine List.append_left_lt (List.cons_lt_cons_iff.2 (Or.inl ?_))
        exact digitChar_lt (by omega) (Nat.mod_lt _ (by decide))

/-- Numbers in their widths, each with a text behind it. -/
def inColumns : List (Nat × List Char) → List Nat → List Char
  | (width, behind) :: columns, number :: numbers =>
    fixedDigits width number ++ (behind ++ inColumns columns numbers)
  | _, _ => []

/-- Every number of a row fits its column. -/
inductive FitsColumns : List (Nat × List Char) → List Nat → Prop where
  | nil : FitsColumns [] []
  | cons {width number : Nat} {behind : List Char} {columns : List (Nat × List Char)}
      {numbers : List Nat} (fits : number < Nat.pow 10 width)
      (others : FitsColumns columns numbers) :
      FitsColumns ((width, behind) :: columns) (number :: numbers)

/-- **Rows in columns stand in the order of the rows.** -/
theorem inColumns_lt {columns : List (Nat × List Char)} {numbers others : List Nat}
    (fits : FitsColumns columns numbers) (fitsLater : FitsColumns columns others)
    (ordered : numbers < others) : inColumns columns numbers < inColumns columns others := by
  induction fits generalizing others with
  | nil =>
      cases fitsLater with
      | nil => exact absurd ordered (List.not_lt_nil _)
  | cons fits _ inductionHypothesis =>
      cases fitsLater with
      | cons fitsLater moreLater =>
          rw [inColumns, inColumns]
          rcases List.cons_lt_cons_iff.1 ordered with less | ⟨rfl, less⟩
          · exact fixedDigits_append_lt less fitsLater _ _
          · exact List.append_left_lt
              (List.append_left_lt (inductionHypothesis moreLater less))

end HostResolver.Number
