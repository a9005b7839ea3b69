import HostResolver.Text.Field

/-!
Cuts of a text at a separator.

Owns: what the cuts at the first and at the last separator give, when there is no cut, how fields
are joined, how many there are, and where the characters of a text stand among them.
-/

namespace HostResolver.Text

variable {separator : Char}

/-! ## One cut -/

/-- There is no cut at the first separator exactly if there is no separator. -/
theorem cutAtFirst?_eq_none_iff {text : List Char} :
    cutAtFirst? separator text = none ↔ separator ∉ text := by
  induction text with
  | nil => simp [cutAtFirst?]
  | cons character rest inductionHypothesis =>
      rw [cutAtFirst?, List.mem_cons, not_or]
      by_cases equal : character = separator
      · simp [equal]
      · rw [if_neg equal, Option.map_eq_none_iff, inductionHypothesis]
        exact ⟨fun absent => ⟨fun same => equal same.symm, absent⟩, fun both => both.2⟩

/-- There is no cut at the last separator exactly if there is no separator. -/
theorem cutAtLast?_eq_none_iff {text : List Char} :
    cutAtLast? separator text = none ↔ separator ∉ text := by
  induction text with
  | nil => simp [cutAtLast?]
  | cons character rest inductionHypothesis =>
      rw [cutAtLast?, List.mem_cons, not_or, ← inductionHypothesis]
      cases cutAtLast? separator rest with
      | some cut => simp
      | none => simp [eq_comm]

theorem cutAtLast?_append_cons (before : List Char) {after : List Char}
    (absent : separator ∉ after) :
    cutAtLast? separator (before ++ separator :: after) = some (before, after) := by
  induction before with
  | nil =>
      rw [List.nil_append, cutAtLast?, cutAtLast?_eq_none_iff.2 absent]
      simp
  | cons head tail inductionHypothesis => rw [List.cons_append, cutAtLast?, inductionHypothesis]

/-- Cutting at the last separator loses nothing and leaves no separator behind the cut. -/
theorem cutAtLast?_eq_some_iff {text before after : List Char} :
    cutAtLast? separator text = some (before, after) ↔
      text = before ++ separator :: after ∧ separator ∉ after := by
  constructor
  · intro found
    induction text generalizing before with
    | nil => simp [cutAtLast?] at found
    | cons character rest inductionHypothesis =>
        rw [cutAtLast?] at found
        cases later : cutAtLast? separator rest with
        | some cut =>
            simp only [later, Option.some.injEq, Prod.mk.injEq] at found
            obtain ⟨rfl, rfl⟩ := found
            obtain ⟨equal, absent⟩ := inductionHypothesis later
            exact ⟨by rw [equal, List.cons_append], absent⟩
        | none =>
            by_cases same : character = separator
            · simp only [later, same, ↓reduceIte, Option.some.injEq, Prod.mk.injEq] at found
              obtain ⟨rfl, rfl⟩ := found
              exact ⟨by rw [same, List.nil_append], cutAtLast?_eq_none_iff.1 later⟩
            · simp [later, same] at found
  · rintro ⟨rfl, absent⟩
    exact cutAtLast?_append_cons before absent

/-! ## Fields -/

theorem fields_of_not_mem {text : List Char} (absent : separator ∉ text) :
    fields separator text = [text] := by
  induction text with
  | nil => rfl
  | cons character rest inductionHypothesis =>
      rw [List.mem_cons, not_or] at absent
      rw [fields, if_neg (fun same => absent.1 same.symm), inductionHypothesis absent.2,
        extendFirst]

/-- The fields on both sides of a separator are fields of the whole. -/
theorem fields_append_cons (before after : List Char) :
    fields separator (before ++ separator :: after) =
      fields separator before ++ fields separator after := by
  induction before with
  | nil => simp [fields]
  | cons character rest inductionHypothesis =>
      rw [List.cons_append, fields, fields, inductionHypothesis]
      by_cases equal : character = separator
      · rw [if_pos equal, if_pos equal, List.cons_append]
      · rw [if_neg equal, if_neg equal]
        cases found : fields separator rest with
        | nil => exact absurd found (fields_ne_nil separator rest)
        | cons first others => rfl

/-- More text goes on with the last field. -/
theorem fields_append {front last : List Char} {others : List (List Char)}
    (split : fields separator front = others ++ [last]) (behind : List Char) :
    fields separator (front ++ behind) = others ++ fields separator (last ++ behind) := by
  induction front generalizing others last with
  | nil =>
      rw [fields, ← List.nil_append [[]], List.append_singleton_inj] at split
      rw [← split.1, ← split.2]
      rfl
  | cons character rest inductionHypothesis =>
      rw [fields] at split
      rw [List.cons_append, fields]
      by_cases equal : character = separator
      · rw [if_pos equal] at split
        rw [if_pos equal]
        cases others with
        | nil =>
            rw [List.nil_append, List.cons.injEq] at split
            exact absurd split.2 (fields_ne_nil separator rest)
        | cons first others =>
            rw [List.cons_append, List.cons.injEq] at split
            rw [inductionHypothesis split.2, ← split.1, List.cons_append]
      · rw [if_neg equal] at split
        rw [if_neg equal]
        cases found : fields separator rest with
        | nil => exact absurd found (fields_ne_nil separator rest)
        | cons first further =>
            rw [found, extendFirst] at split
            cases others with
            | nil =>
                rw [List.nil_append, List.cons.injEq] at split
                rw [split.2, ← List.nil_append [first]] at found
                rw [inductionHypothesis found, ← split.1, List.nil_append, List.nil_append,
                  List.cons_append, fields, if_neg equal]
            | cons second others =>
                rw [List.cons_append, List.cons.injEq] at split
                rw [split.2, ← List.cons_append] at found
                rw [inductionHypothesis found, ← split.1, List.cons_append, List.cons_append]
                rfl

/-- Texts without the separator are the fields of what they are joined to. -/
theorem fields_intercalate {texts : List (List Char)} (pure : ∀ text ∈ texts, separator ∉ text)
    (nonempty : texts ≠ []) : fields separator ([separator].intercalate texts) = texts := by
  induction texts with
  | nil => contradiction
  | cons text rest inductionHypothesis =>
      obtain ⟨here, later⟩ := List.forall_mem_cons.1 pure
      cases rest with
      | nil => rw [List.intercalate_singleton, fields_of_not_mem here]
      | cons next others =>
          rw [List.intercalate_cons_cons, List.append_assoc, List.singleton_append,
            fields_append_cons, fields_of_not_mem here, inductionHypothesis later (by simp),
            List.singleton_append]

/-- What stands in a field stands in the text, and is not the separator. -/
theorem mem_and_ne_of_mem_fields {text field : List Char} {character : Char}
    (isField : field ∈ fields separator text) (inside : character ∈ field) :
    character ∈ text ∧ character ≠ separator := by
  induction text generalizing field with
  | nil =>
      rw [fields, List.mem_singleton] at isField
      simp [isField] at inside
  | cons head rest inductionHypothesis =>
      have further {other : List Char} (isField : other ∈ fields separator rest)
          (inside : character ∈ other) : character ∈ head :: rest ∧ character ≠ separator :=
        ⟨List.mem_cons_of_mem head (inductionHypothesis isField inside).1,
          (inductionHypothesis isField inside).2⟩
      rw [fields] at isField
      by_cases equal : head = separator
      · rw [if_pos equal] at isField
        rcases List.mem_cons.1 isField with rfl | later
        · simp at inside
        · exact further later inside
      · rw [if_neg equal] at isField
        cases found : fields separator rest with
        | nil => exact absurd found (fields_ne_nil separator rest)
        | cons first others =>
            rw [found] at isField further
            rcases List.mem_cons.1 isField with rfl | later
            · rcases List.mem_cons.1 inside with rfl | behind
              · exact ⟨List.mem_cons_self, equal⟩
              · exact further List.mem_cons_self behind
            · exact further (List.mem_cons_of_mem first later) inside

/-- There is one field more than separators. -/
theorem length_fields (separator : Char) (text : List Char) :
    (fields separator text).length = text.count separator + 1 := by
  induction text with
  | nil => rfl
  | cons character rest inductionHypothesis =>
      rw [fields]
      by_cases equal : character = separator
      · rw [if_pos equal, List.length_cons, inductionHypothesis, equal, List.count_cons_self]
      · rw [if_neg equal, List.count_cons_of_ne equal, ← inductionHypothesis]
        cases found : fields separator rest with
        | nil => exact absurd found (fields_ne_nil separator rest)
        | cons first others => rfl

/-- A character of a text is the separator or stands in a field. -/
theorem eq_or_mem_fields (separator : Char) {text : List Char} {character : Char}
    (member : character ∈ text) :
    character = separator ∨ ∃ field ∈ fields separator text, character ∈ field := by
  induction text with
  | nil => simp at member
  | cons head rest inductionHypothesis =>
      rw [fields]
      by_cases equal : head = separator
      · rw [if_pos equal]
        rcases List.mem_cons.1 member with same | later
        · exact Or.inl (same.trans equal)
        · rcases inductionHypothesis later with same | ⟨field, isField, inside⟩
          · exact Or.inl same
          · exact Or.inr ⟨field, List.mem_cons_of_mem _ isField, inside⟩
      · rw [if_neg equal]
        cases found : fields separator rest with
        | nil => exact absurd found (fields_ne_nil separator rest)
        | cons first others =>
            rw [found] at inductionHypothesis
            rw [extendFirst]
            rcases List.mem_cons.1 member with same | later
            · exact Or.inr ⟨head :: first, List.mem_cons_self, same ▸ List.mem_cons_self⟩
            · rcases inductionHypothesis later with same | ⟨field, isField, inside⟩
              · exact Or.inl same
              · rcases List.mem_cons.1 isField with here | further
                · exact Or.inr ⟨head :: first, List.mem_cons_self,
                    List.mem_cons_of_mem _ (here ▸ inside)⟩
                · exact Or.inr ⟨field, List.mem_cons_of_mem _ further, inside⟩

end HostResolver.Text
