import HostResolver.Document.Value

/-!
Entries by name.

Owns: when a key is the same as a text, what a look-up finds behind a change of one entry and among
the entries that are kept, and the laws of two changes in a row.

Does not own: how the entries of a document are read.
-/

namespace HostResolver.Document

theorem Value.sameKey_text_iff {key : Value} {name : String} :
    key.sameKey (.text name) = true ↔ key = .text name := by
  cases key <;> simp [sameKey, keyNumber?]

namespace Entries

theorem get?_cons_self (name : String) (value : Value) (entries : Entries) :
    get? ((.text name, value) :: entries) name = some value := if_pos rfl

theorem get?_cons_of_ne {key : Value} {name : String} (other : key ≠ .text name) (value : Value)
    (entries : Entries) : get? ((key, value) :: entries) name = get? entries name := by
  cases key with
  | text found => exact if_neg fun same => other (congrArg Value.text same)
  | _ => rfl

theorem set_cons_self (name : String) (old value : Value) (entries : Entries) :
    set ((.text name, old) :: entries) (.text name) value = (.text name, value) :: entries :=
  if_pos (Value.sameKey_text_iff.2 rfl)

theorem set_cons_of_ne {key : Value} {name : String} (other : key ≠ .text name) (old value : Value)
    (entries : Entries) :
    set ((key, old) :: entries) (.text name) value =
      (key, old) :: set entries (.text name) value :=
  if_neg fun same => other (Value.sameKey_text_iff.1 same)

theorem get?_set_self (entries : Entries) (name : String) (value : Value) :
    get? (set entries (.text name) value) name = some value := by
  induction entries with
  | nil => exact get?_cons_self name value []
  | cons entry rest inductionHypothesis =>
      obtain ⟨key, old⟩ := entry
      by_cases same : key = .text name
      · subst same
        rw [set_cons_self, get?_cons_self]
      · rw [set_cons_of_ne same, get?_cons_of_ne same, inductionHypothesis]

theorem get?_set_of_ne {name other : String} (different : name ≠ other) (entries : Entries)
    (value : Value) : get? (set entries (.text name) value) other = get? entries other := by
  have keysDiffer : Value.text name ≠ .text other := fun same => different (Value.text.inj same)
  induction entries with
  | nil => exact get?_cons_of_ne keysDiffer value []
  | cons entry rest inductionHypothesis =>
      obtain ⟨key, old⟩ := entry
      by_cases same : key = .text name
      · subst same
        rw [set_cons_self, get?_cons_of_ne keysDiffer, get?_cons_of_ne keysDiffer]
      · rw [set_cons_of_ne same]
        by_cases found : key = .text other
        · subst found
          rw [get?_cons_self, get?_cons_self]
        · rw [get?_cons_of_ne found, get?_cons_of_ne found, inductionHypothesis]

theorem get?_filter {keep : Value × Value → Bool} {name : String}
    (kept : ∀ value, keep (.text name, value) = true) (entries : Entries) :
    get? (entries.filter keep) name = get? entries name := by
  induction entries with
  | nil => rfl
  | cons entry rest inductionHypothesis =>
      obtain ⟨key, value⟩ := entry
      by_cases same : key = .text name
      · subst same
        rw [List.filter_cons_of_pos (kept value), get?_cons_self, get?_cons_self]
      · rw [get?_cons_of_ne same, ← inductionHypothesis]
        cases keeps : keep (key, value) with
        | true => rw [List.filter_cons_of_pos keeps, get?_cons_of_ne same]
        | false => rw [List.filter_cons_of_neg (by simp [keeps])]

/-! ## Two changes in a row -/

theorem set_of_get? {entries : Entries} {name : String} {value : Value}
    (found : get? entries name = some value) : set entries (.text name) value = entries := by
  induction entries with
  | nil => exact absurd found.symm (Option.some_ne_none value)
  | cons entry rest inductionHypothesis =>
      obtain ⟨key, old⟩ := entry
      by_cases same : key = .text name
      · subst same
        rw [get?_cons_self, Option.some.injEq] at found
        rw [set_cons_self, found]
      · rw [get?_cons_of_ne same] at found
        rw [set_cons_of_ne same, inductionHypothesis found]

theorem set_set_self (entries : Entries) (name : String) (first second : Value) :
    set (set entries (.text name) first) (.text name) second =
      set entries (.text name) second := by
  induction entries with
  | nil => exact set_cons_self name first second []
  | cons entry rest inductionHypothesis =>
      obtain ⟨key, old⟩ := entry
      by_cases same : key = .text name
      · subst same
        rw [set_cons_self, set_cons_self, set_cons_self]
      · rw [set_cons_of_ne same, set_cons_of_ne same, set_cons_of_ne same, inductionHypothesis]

/-- Changes under two names may be made in either order, if one of the names is there already. -/
theorem set_comm {entries : Entries} {name other : String} (different : name ≠ other)
    (present : get? entries name ≠ none) (value otherValue : Value) :
    set (set entries (.text other) otherValue) (.text name) value =
      set (set entries (.text name) value) (.text other) otherValue := by
  have keysDiffer : Value.text name ≠ .text other := fun same => different (Value.text.inj same)
  induction entries with
  | nil => exact absurd rfl present
  | cons entry rest inductionHypothesis =>
      obtain ⟨key, old⟩ := entry
      by_cases same : key = .text name
      · subst same
        rw [set_cons_of_ne keysDiffer, set_cons_self, set_cons_self, set_cons_of_ne keysDiffer]
      · rw [get?_cons_of_ne same] at present
        by_cases found : key = .text other
        · subst found
          rw [set_cons_self, set_cons_of_ne keysDiffer.symm, set_cons_of_ne keysDiffer.symm,
            set_cons_self]
        · rw [set_cons_of_ne found, set_cons_of_ne same, set_cons_of_ne same,
            set_cons_of_ne found, inductionHypothesis present]

theorem set_append {front : Entries} {name : String} (absent : get? front name = none)
    (back : Entries) (value : Value) :
    set (front ++ back) (.text name) value = front ++ set back (.text name) value := by
  induction front with
  | nil => rfl
  | cons entry rest inductionHypothesis =>
      obtain ⟨key, old⟩ := entry
      have other : key ≠ .text name := by
        intro same
        rw [same, get?_cons_self] at absent
        exact Option.some_ne_none old absent
      rw [get?_cons_of_ne other] at absent
      rw [List.cons_append, set_cons_of_ne other, inductionHypothesis absent, List.cons_append]

end Entries

end HostResolver.Document
