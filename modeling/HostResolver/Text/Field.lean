import HostResolver.Text.Blank

/-!
Fields between separators.

This module owns the cutting of a text at every occurrence of one character. A text with `n`
separators has `n + 1` fields, any of which may be empty.
-/

namespace HostResolver.Text

/-- The fields of a text between separators. -/
def fields (separator : Char) : List Char → List (List Char)
  | [] => [[]]
  | character :: rest =>
    if character = separator then [] :: fields separator rest
    else extendFirst character (fields separator rest)

/-- What stands before the first separator and what follows it; nothing if there is none. -/
def cutAtFirst? (separator : Char) : List Char → Option (List Char × List Char)
  | [] => none
  | character :: rest =>
    if character = separator then some ([], rest)
    else (cutAtFirst? separator rest).map fun cut => (character :: cut.1, cut.2)

/-- What stands before the last separator and what follows it; nothing if there is none. -/
def cutAtLast? (separator : Char) : List Char → Option (List Char × List Char)
  | [] => none
  | character :: rest =>
    match cutAtLast? separator rest with
    | some cut => some (character :: cut.1, cut.2)
    | none => if character = separator then some ([], rest) else none

/-! ## Small lemmas -/

theorem extendFirst_ne_nil (character : Char) (texts : List (List Char)) :
    extendFirst character texts ≠ [] := by
  cases texts <;> simp [extendFirst]

theorem fields_ne_nil (separator : Char) (text : List Char) : fields separator text ≠ [] := by
  cases text with
  | nil => simp [fields]
  | cons character rest =>
    rw [fields]
    split
    · simp
    · exact extendFirst_ne_nil character _

/-- Cutting at the first separator loses nothing and leaves no separator before the cut. -/
theorem cutAtFirst?_eq_some_iff {separator : Char} {text before after : List Char} :
    cutAtFirst? separator text = some (before, after) ↔
      text = before ++ separator :: after ∧ separator ∉ before := by
  induction text generalizing before with
  | nil => simp [cutAtFirst?]
  | cons character rest inductionHypothesis =>
    rw [cutAtFirst?]
    by_cases equal : character = separator
    · subst equal
      cases before with
      | nil => simp [eq_comm]
      | cons head tail =>
        simp only [↓reduceIte, Option.some.injEq, Prod.mk.injEq, List.cons_append, List.cons.injEq,
          List.mem_cons, not_or]
        constructor
        · rintro ⟨contradiction, _⟩
          simp at contradiction
        · rintro ⟨⟨rfl, _⟩, different, _⟩
          exact absurd rfl different
    · simp only [equal, ↓reduceIte, Option.map_eq_some_iff, Prod.mk.injEq, Prod.exists]
      cases before with
      | nil =>
        constructor
        · rintro ⟨_, _, _, contradiction, _⟩
          simp at contradiction
        · rintro ⟨contradiction, _⟩
          simp only [List.nil_append, List.cons.injEq] at contradiction
          exact absurd contradiction.1 equal
      | cons head tail =>
        simp only [List.cons.injEq, List.cons_append, List.mem_cons, not_or]
        constructor
        · rintro ⟨first, second, found, ⟨rfl, rfl⟩, rfl⟩
          obtain ⟨rfl, absent⟩ := inductionHypothesis.1 found
          exact ⟨⟨rfl, rfl⟩, fun same => equal same.symm, absent⟩
        · rintro ⟨⟨rfl, rfl⟩, _, absent⟩
          exact ⟨tail, after, inductionHypothesis.2 ⟨rfl, absent⟩, ⟨rfl, rfl⟩, rfl⟩

end HostResolver.Text
