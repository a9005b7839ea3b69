import HostResolver.Text.Blank
import Mathlib.Data.List.TakeWhile

/-!
Words and trimmed text.

Owns: the agreement of the reader that takes one word off a text with the list of all words, where
the characters that trimming removes can come from, and that trimming changes no word.
-/

namespace HostResolver.Text

/-! ## Trimming -/

theorem isBlank_or_mem_dropWhile {text : List Char} {character : Char}
    (member : character ∈ text) :
    isBlank character = true ∨ character ∈ text.dropWhile isBlank := by
  rw [← List.takeWhile_append_dropWhile (p := isBlank) (l := text)] at member
  rcases List.mem_append.1 member with dropped | kept
  · exact Or.inl (List.mem_takeWhile_imp dropped)
  · exact Or.inr kept

/-- Trimming removes nothing but blanks. -/
theorem isBlank_or_mem_trim {text : List Char} {character : Char} (member : character ∈ text) :
    isBlank character = true ∨ character ∈ trim text := by
  rcases isBlank_or_mem_dropWhile member with blank | kept
  · exact Or.inl blank
  · rcases isBlank_or_mem_dropWhile (List.mem_reverse.2 kept) with blank | kept
    · exact Or.inl blank
    · exact Or.inr (List.mem_reverse.2 kept)

theorem startsWithInk_append {front : List Char} (nonempty : front ≠ [])
    (inked : ∀ character ∈ front, isInk character = true) (behind : List Char) :
    startsWithInk (front ++ behind) = true := by
  cases front with
  | nil => contradiction
  | cons first others => exact inked first List.mem_cons_self

theorem dropWhile_of_startsWithInk {text : List Char} (inked : startsWithInk text = true) :
    text.dropWhile isBlank = text := by
  cases text with
  | nil => rfl
  | cons first others =>
      have ink : isInk first = true := inked
      have notBlank : ¬isBlank first = true := by simpa [isInk] using ink
      exact List.dropWhile_cons_of_neg notBlank

/-- There is nothing to trim between two ends of ink. -/
theorem trim_of_startsWithInk {text : List Char} (front : startsWithInk text = true)
    (back : startsWithInk text.reverse = true) : trim text = text := by
  rw [trim, trimStart, dropWhile_of_startsWithInk front, trimEnd, dropWhile_of_startsWithInk back,
    List.reverse_reverse]

/-! ## The first word -/

theorem firstWord?_of_startsWithInk {text : List Char} (inked : startsWithInk text = true) :
    firstWord? text = some (text.takeWhile isInk, trimStart (text.dropWhile isInk)) := by
  have start : trimStart text = text := dropWhile_of_startsWithInk inked
  rw [firstWord?, start]
  cases text with
  | nil => simp [startsWithInk] at inked
  | cons first others => rfl

/-- A word and what follows the blank behind it. -/
theorem firstWord?_append_blank {word : List Char} (nonempty : word ≠ [])
    (inked : ∀ character ∈ word, isInk character = true) {blank : Char}
    (isBlank : isBlank blank = true) (behind : List Char) :
    firstWord? (word ++ blank :: behind) = some (word, trimStart behind) := by
  have stop : ¬isInk blank = true := by simp [isInk, isBlank]
  rw [firstWord?_of_startsWithInk (startsWithInk_append nonempty inked _),
    List.takeWhile_append_of_pos inked, List.dropWhile_append_of_pos inked,
    List.takeWhile_cons_of_neg stop, List.dropWhile_cons_of_neg stop, List.append_nil, trimStart,
    List.dropWhile_cons_of_pos isBlank]
  rfl

/-- A text without blanks is one word. -/
theorem firstWord?_of_ink {word : List Char} (nonempty : word ≠ [])
    (inked : ∀ character ∈ word, isInk character = true) : firstWord? word = some (word, []) := by
  have whole := startsWithInk_append nonempty inked []
  rw [List.append_nil] at whole
  rw [firstWord?_of_startsWithInk whole, List.takeWhile_eq_self_iff.2 inked,
    List.dropWhile_eq_nil_iff.2 inked]
  rfl

theorem words_trimStart (text : List Char) : words (trimStart text) = words text := by
  induction text with
  | nil => rfl
  | cons character rest inductionHypothesis =>
      rw [trimStart, List.dropWhile_cons]
      by_cases blank : isBlank character = true
      · rw [if_pos blank, words_cons_of_isBlank blank]
        exact inductionHypothesis
      · rw [if_neg blank]

/-- A text that begins with ink begins with its first word. -/
theorem words_of_startsWithInk {text : List Char} (inked : startsWithInk text = true) :
    words text = text.takeWhile isInk :: words (text.dropWhile isInk) := by
  induction text with
  | nil => simp [startsWithInk] at inked
  | cons character rest inductionHypothesis =>
      have ink : isInk character = true := inked
      have notBlank : ¬ isBlank character = true := by simpa [isInk] using ink
      rw [words, if_neg notBlank, List.takeWhile_cons_of_pos ink, List.dropWhile_cons_of_pos ink]
      by_cases further : startsWithInk rest = true
      · rw [if_pos further, inductionHypothesis further, extendFirst]
      · rw [if_neg further]
        cases rest with
        | nil => rfl
        | cons next others =>
            have blank : ¬ isInk next = true := further
            rw [List.takeWhile_cons_of_neg blank, List.dropWhile_cons_of_neg blank]

theorem startsWithInk_trimStart {text : List Char} (nonempty : trimStart text ≠ []) :
    startsWithInk (trimStart text) = true := by
  cases start : trimStart text with
  | nil => exact absurd start nonempty
  | cons character rest =>
      have head := List.head?_dropWhile_not isBlank text
      rw [show text.dropWhile isBlank = character :: rest from start] at head
      simpa [startsWithInk, isInk] using head

theorem trimEnd_cons_of_isInk {character : Char} (ink : isInk character = true)
    (rest : List Char) : trimEnd (character :: rest) = character :: trimEnd rest := by
  have notBlank : ¬isBlank character = true := by simpa [isInk] using ink
  have kept : [character].dropWhile isBlank = [character] := List.dropWhile_cons_of_neg notBlank
  rw [trimEnd, List.reverse_cons, List.dropWhile_append, kept, trimEnd]
  split
  · next empty => rw [List.isEmpty_iff.1 empty]; rfl
  · rw [List.reverse_append, List.reverse_singleton, List.singleton_append]

/-- What is left of a trimmed text begins with ink. -/
theorem startsWithInk_trim {text : List Char} (nonempty : trim text ≠ []) :
    startsWithInk (trim text) = true := by
  rw [trim] at nonempty ⊢
  cases start : trimStart text with
  | nil =>
      rw [start] at nonempty
      contradiction
  | cons character rest =>
      have ink : startsWithInk (trimStart text) = true :=
        startsWithInk_trimStart (by simp [start])
      rw [start] at ink
      rw [trimEnd_cons_of_isInk ink]
      exact ink

/-- What is left of a trimmed text ends with ink. -/
theorem startsWithInk_reverse_trim {text : List Char} (nonempty : trim text ≠ []) :
    startsWithInk (trim text).reverse = true := by
  have backwards : (trim text).reverse = trimStart (trimStart text).reverse :=
    List.reverse_reverse _
  rw [backwards]
  apply startsWithInk_trimStart
  rw [← backwards]
  exact mt List.reverse_eq_nil_iff.1 nonempty

/-- Behind the first word there is nothing, or another word. -/
theorem rest_of_firstWord? {text word rest : List Char}
    (found : firstWord? text = some (word, rest)) :
    rest = [] ∨ ∃ next behind, firstWord? rest = some (next, behind) := by
  unfold firstWord? at found
  cases start : trimStart text with
  | nil => simp [start] at found
  | cons character others =>
      simp only [start, Option.some.injEq, Prod.mk.injEq] at found
      rw [← found.2]
      by_cases empty : trimStart ((character :: others).dropWhile isInk) = []
      · exact Or.inl empty
      · exact Or.inr ⟨_, _, firstWord?_of_startsWithInk (startsWithInk_trimStart empty)⟩

/-- The first word and the words of what follows it are all words of a text. -/
theorem words_eq_of_firstWord? {text word rest : List Char}
    (found : firstWord? text = some (word, rest)) : words text = word :: words rest := by
  rw [firstWord?] at found
  rw [← words_trimStart text]
  cases start : trimStart text with
  | nil => simp [start] at found
  | cons character others =>
      have inked : startsWithInk (character :: others) = true := by
        rw [← start]
        exact startsWithInk_trimStart (by simp [start])
      simp only [start, Option.some.injEq, Prod.mk.injEq] at found
      obtain ⟨rfl, rfl⟩ := found
      rw [words_of_startsWithInk inked, words_trimStart]

/-- A blank between two texts keeps their words apart. -/
theorem words_append_blank {blank : Char} (isBlank : isBlank blank = true)
    (front behind : List Char) :
    words (front ++ blank :: behind) = words front ++ words behind := by
  induction front with
  | nil => exact words_cons_of_isBlank isBlank behind
  | cons character rest inductionHypothesis =>
      rw [List.cons_append, words, words, inductionHypothesis]
      split
      · rfl
      · cases rest with
        | nil =>
            have stop : ¬startsWithInk (blank :: behind) = true := by
              simp [startsWithInk, isInk, isBlank]
            rw [List.nil_append, if_neg stop]
            rfl
        | cons next others =>
            have sameStart : startsWithInk (next :: others ++ blank :: behind) =
                startsWithInk (next :: others) := rfl
            rw [sameStart]
            split
            · next inked =>
                rw [words_of_startsWithInk inked]
                rfl
            · rfl

/-! ## Words of trimmed text -/

theorem words_eq_nil_of_blank {text : List Char}
    (blank : ∀ character ∈ text, isBlank character = true) : words text = [] := by
  induction text with
  | nil => rfl
  | cons character rest inductionHypothesis =>
      obtain ⟨here, later⟩ := List.forall_mem_cons.1 blank
      rw [words_cons_of_isBlank here]
      exact inductionHypothesis later

theorem words_append_of_blank {behind : List Char}
    (blank : ∀ character ∈ behind, isBlank character = true) (front : List Char) :
    words (front ++ behind) = words front := by
  cases behind with
  | nil => rw [List.append_nil]
  | cons character rest =>
      obtain ⟨here, later⟩ := List.forall_mem_cons.1 blank
      rw [words_append_blank here, words_eq_nil_of_blank later, List.append_nil]

theorem words_trimEnd (text : List Char) : words (trimEnd text) = words text := by
  have cut : trimEnd text ++ (text.reverse.takeWhile isBlank).reverse = text := by
    rw [trimEnd, ← List.reverse_append, List.takeWhile_append_dropWhile, List.reverse_reverse]
  have blank : ∀ character ∈ (text.reverse.takeWhile isBlank).reverse,
      isBlank character = true :=
    fun character member => List.mem_takeWhile_imp (List.mem_reverse.1 member)
  rw [← words_append_of_blank blank (trimEnd text), cut]

/-- Trimming changes no word. -/
theorem words_trim (text : List Char) : words (trim text) = words text := by
  rw [trim, words_trimEnd, words_trimStart]

end HostResolver.Text
