import HostResolver.Text.Numeral
import HostResolver.Proofs.Text.Fields
import Mathlib.Data.List.TakeWhile

/-!
Whole numbers and the texts that write them.

Owns: which texts write a whole number, by their sign and the groups of digits between underscores,
and that reading accepts exactly these, with the number that is written.

Does not own: why a text that writes no number is refused.
-/

namespace HostResolver.Text.Numeral

/-! ## Texts of numbers -/

/-- A natural number is written by decimal digits of any script, in groups with one underscore
between two of them, and by no more digits than are read. -/
structure WritesNatural (text : List Char) (value : Nat) : Prop where
  groups : ∀ group ∈ fields '_' text,
    group ≠ [] ∧ ∀ character ∈ group, (decimalDigit? character).isSome = true
  short : (text.filterMap decimalDigit?).length ≤ maxDigits
  value : ofDigits (text.filterMap decimalDigit?) = value

/-- A whole number is written by a natural one, with or without a sign in front of it, between
blanks. -/
inductive Writes (text : List Char) : Int → Prop where
  | unsigned {front digits behind : List Char} {value : Nat}
      (split : text = front ++ digits ++ behind)
      (frontBlank : ∀ each ∈ front, isPadding each = true)
      (natural : WritesNatural digits value)
      (behindBlank : ∀ each ∈ behind, isPadding each = true) : Writes text value
  | positive {front digits behind : List Char} {value : Nat}
      (split : text = front ++ '+' :: digits ++ behind)
      (frontBlank : ∀ each ∈ front, isPadding each = true)
      (natural : WritesNatural digits value)
      (behindBlank : ∀ each ∈ behind, isPadding each = true) : Writes text value
  | negative {front digits behind : List Char} {value : Nat}
      (split : text = front ++ '-' :: digits ++ behind)
      (frontBlank : ∀ each ∈ front, isPadding each = true)
      (natural : WritesNatural digits value)
      (behindBlank : ∀ each ∈ behind, isPadding each = true) : Writes text (-value)

/-! ## Characters -/

/-- The blanks beyond ASCII are no digits of any script. -/
theorem decimalDigit?_of_wideBlank : ∀ code ∈ [0x85, 0xA0, 0x1680, 0x2000, 0x2001, 0x2002, 0x2003,
    0x2004, 0x2005, 0x2006, 0x2007, 0x2008, 0x2009, 0x200A, 0x2028, 0x2029, 0x202F, 0x205F, 0x3000],
    decimalZeros.find? (fun first => first ≤ code && code < first + 10) = none := by
  decide

theorem isPart_of_isPadding {character : Char} (padding : isPadding character = true) :
    isPart character = false := by
  have blank : isBlank character = true := (Bool.and_eq_true_iff.1 padding).1
  have notUnderscore : character ≠ '_' := by
    rintro rfl
    contradiction
  have noDigit : decimalDigit? character = none := by
    unfold isBlank at blank
    simp only [Bool.or_eq_true, Bool.and_eq_true, decide_eq_true_eq, beq_iff_eq] at blank
    unfold decimalDigit?
    simp only [Bool.and_eq_true, decide_eq_true_eq]
    by_cases narrow : character.toNat < 0x80
    · rw [if_pos narrow, if_neg (by omega)]
    · have wide := decimalDigit?_of_wideBlank character.toNat (by
        simp only [List.mem_cons, List.not_mem_nil, or_false]
        omega)
      rw [if_neg narrow, wide]
      rfl
  simp [isPart, notUnderscore, noDigit]

theorem isPadding_of_isPart {character : Char} (part : isPart character = true) :
    isPadding character = false := by
  rw [← Bool.not_eq_true]
  intro padding
  rw [isPart_of_isPadding padding] at part
  contradiction

/-! ## Groups -/

/-- Underscores stand between digits only if no group is empty. Behind a digit the first group may
be, since it goes on with that digit's own. -/
theorem wellSpaced_iff (text : List Char) :
    (wellSpaced false text = true ↔ ∀ group ∈ fields '_' text, group ≠ []) ∧
      (wellSpaced true text = true ↔ ∀ group ∈ (fields '_' text).tail, group ≠ []) := by
  induction text with
  | nil => simp [wellSpaced, fields]
  | cons character rest inductionHypothesis =>
      obtain ⟨afterUnderscore, afterDigit⟩ := inductionHypothesis
      by_cases underscore : character = '_'
      · simp [wellSpaced, fields, underscore, afterUnderscore]
      · cases found : fields '_' rest with
        | nil => exact absurd found (fields_ne_nil '_' rest)
        | cons first others =>
            rw [found, List.tail_cons] at afterDigit
            simp [wellSpaced, fields, underscore, found, extendFirst, afterDigit]

theorem isPart_of_writesNatural {text : List Char} {value : Nat}
    (natural : WritesNatural text value) : ∀ character ∈ text, isPart character = true := by
  intro character member
  rcases eq_or_mem_fields '_' member with rfl | ⟨group, isGroup, inside⟩
  · rfl
  · simp [isPart, (natural.groups group isGroup).2 character inside]

theorem ne_nil_of_writesNatural {text : List Char} {value : Nat}
    (natural : WritesNatural text value) : text ≠ [] := by
  rintro rfl
  exact (natural.groups [] (by simp [fields])).1 rfl

/-- The groups of characters that can stand in a numeral, if none is empty. -/
theorem groups_of_wellSpaced {text : List Char} (parts : ∀ each ∈ text, isPart each = true)
    (spaced : wellSpaced false text = true) : ∀ group ∈ fields '_' text,
      group ≠ [] ∧ ∀ character ∈ group, (decimalDigit? character).isSome = true := by
  intro group isGroup
  refine ⟨(wellSpaced_iff text).1.1 spaced group isGroup, ?_⟩
  intro character inside
  obtain ⟨member, notUnderscore⟩ := mem_and_ne_of_mem_fields isGroup inside
  have part := parts character member
  simpa [isPart, notUnderscore] using part

/-! ## Reading -/

theorem readMagnitude_of_writesNatural {digits behind : List Char} {value : Nat}
    (natural : WritesNatural digits value) (behindBlank : ∀ each ∈ behind, isPadding each = true) :
    readMagnitude (digits ++ behind) = .ok value := by
  have parts := isPart_of_writesNatural natural
  have stops : behind.takeWhile isPart = [] ∧ behind.dropWhile isPart = behind := by
    cases behind with
    | nil => exact ⟨rfl, rfl⟩
    | cons first others =>
        have noPart := isPart_of_isPadding (behindBlank first List.mem_cons_self)
        simp [noPart]
  have part : (digits ++ behind).takeWhile isPart = digits := by
    rw [List.takeWhile_append_of_pos parts, stops.1, List.append_nil]
  have rest : (digits ++ behind).dropWhile isPart = behind := by
    rw [List.dropWhile_append_of_pos parts, stops.2]
  have spaced : wellSpaced false digits = true :=
    (wellSpaced_iff digits).1.2 fun group isGroup => (natural.groups group isGroup).1
  have padded : behind.all isPadding = true := List.all_eq_true.2 behindBlank
  have short := natural.short
  simp [readMagnitude, part, rest, spaced, padded, Nat.not_lt.2 short, natural.value]

theorem writesNatural_of_readMagnitude {text : List Char} {value : Nat}
    (accepted : readMagnitude text = .ok value) :
    WritesNatural (text.takeWhile isPart) value ∧
      ∀ each ∈ text.dropWhile isPart, isPadding each = true := by
  unfold readMagnitude at accepted
  dsimp only at accepted
  split at accepted
  · contradiction
  · next spaced =>
      split at accepted
      · contradiction
      · next short =>
          split at accepted
          · contradiction
          · next padded =>
              rw [Bool.not_eq_true, Bool.not_eq_false'] at spaced padded
              have parts : ∀ each ∈ text.takeWhile isPart, isPart each = true :=
                fun each member => List.mem_takeWhile_imp member
              exact ⟨⟨groups_of_wellSpaced parts spaced, Nat.not_lt.1 short,
                Except.ok.inj accepted⟩, List.all_eq_true.1 padded⟩

/-- Behind the blanks in front, a text begins with what is no blank. -/
theorem dropWhile_isPadding_append {front behind : List Char} {first : Char}
    (frontBlank : ∀ each ∈ front, isPadding each = true) (begun : isPadding first = false) :
    (front ++ first :: behind).dropWhile isPadding = first :: behind := by
  rw [List.dropWhile_append_of_pos frontBlank, List.dropWhile_cons_of_neg (by simp [begun])]

/-- The digits of a number begin with a digit. -/
theorem exists_first_of_writesNatural {digits : List Char} {value : Nat}
    (natural : WritesNatural digits value) :
    ∃ first others, digits = first :: others ∧ isPadding first = false ∧ first ≠ '+' ∧
      first ≠ '-' := by
  obtain ⟨first, others, rfl⟩ := List.exists_cons_of_ne_nil (ne_nil_of_writesNatural natural)
  have part := isPart_of_writesNatural natural first List.mem_cons_self
  refine ⟨first, others, rfl, isPadding_of_isPart part, ?_, ?_⟩
  · rintro rfl
    contradiction
  · rintro rfl
    contradiction

/-- What a text without a sign is read as. -/
theorem read_of_unsigned {text : List Char} {first : Char} {others : List Char}
    (shape : text.dropWhile isPadding = first :: others) (notPlus : first ≠ '+')
    (notMinus : first ≠ '-') :
    read text = (readMagnitude (first :: others)).map fun value => (value : Int) := by
  rw [read, shape]
  split
  · next same => exact absurd (List.cons.inj same).1 notMinus
  · next same => exact absurd (List.cons.inj same).1 notPlus
  · rfl

theorem read_of_writes {text : List Char} {value : Int} (written : Writes text value) :
    read text = .ok value := by
  cases written with
  | unsigned split frontBlank natural behindBlank =>
      obtain ⟨first, others, rfl, begun, notPlus, notMinus⟩ := exists_first_of_writesNatural natural
      have magnitude := readMagnitude_of_writesNatural natural behindBlank
      rw [split, List.append_assoc, List.cons_append, read_of_unsigned
        (dropWhile_isPadding_append frontBlank begun) notPlus notMinus]
      rw [List.cons_append] at magnitude
      rw [magnitude]
      rfl
  | positive split frontBlank natural behindBlank =>
      rw [split, List.append_assoc, List.cons_append, read,
        dropWhile_isPadding_append frontBlank (by decide)]
      simp only [readMagnitude_of_writesNatural natural behindBlank]
      rfl
  | negative split frontBlank natural behindBlank =>
      rw [split, List.append_assoc, List.cons_append, read,
        dropWhile_isPadding_append frontBlank (by decide)]
      simp only [readMagnitude_of_writesNatural natural behindBlank]
      rfl

/-- The natural number behind a sign, which may be no sign at all. -/
theorem exists_magnitude {text : List Char} {sign : Int → Int} {value : Int}
    (accepted : Except.map sign (readMagnitude text) = .ok value) :
    ∃ digits behind magnitude, text = digits ++ behind ∧ WritesNatural digits magnitude ∧
      (∀ each ∈ behind, isPadding each = true) ∧ sign magnitude = value := by
  cases found : readMagnitude text with
  | error error =>
      rw [found] at accepted
      contradiction
  | ok magnitude =>
      rw [found] at accepted
      obtain ⟨natural, behindBlank⟩ := writesNatural_of_readMagnitude found
      exact ⟨_, _, magnitude, List.takeWhile_append_dropWhile.symm, natural, behindBlank,
        Except.ok.inj accepted⟩

theorem writes_of_read {text : List Char} {value : Int} (accepted : read text = .ok value) :
    Writes text value := by
  have frontBlank : ∀ each ∈ text.takeWhile isPadding, isPadding each = true :=
    fun each member => List.mem_takeWhile_imp member
  have whole := List.takeWhile_append_dropWhile (p := isPadding) (l := text)
  unfold read at accepted
  split at accepted
  · next magnitude shape =>
      obtain ⟨digits, behind, number, rfl, natural, behindBlank, rfl⟩ := exists_magnitude accepted
      rw [shape] at whole
      have split := whole.symm
      rw [← List.cons_append, ← List.append_assoc] at split
      exact .negative split frontBlank natural behindBlank
  · next magnitude shape =>
      obtain ⟨digits, behind, number, rfl, natural, behindBlank, rfl⟩ := exists_magnitude accepted
      rw [shape] at whole
      have split := whole.symm
      rw [← List.cons_append, ← List.append_assoc] at split
      exact .positive split frontBlank natural behindBlank
  · obtain ⟨digits, behind, number, shape, natural, behindBlank, rfl⟩ := exists_magnitude accepted
    rw [shape] at whole
    have split := whole.symm
    rw [← List.append_assoc] at split
    exact .unsigned split frontBlank natural behindBlank

/-- **Reading accepts exactly the texts that write a whole number**, with that number. -/
theorem read_eq_ok_iff {text : List Char} {value : Int} :
    read text = .ok value ↔ Writes text value :=
  ⟨writes_of_read, read_of_writes⟩

end HostResolver.Text.Numeral
