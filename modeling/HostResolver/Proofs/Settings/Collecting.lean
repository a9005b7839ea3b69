import HostResolver.Settings.Source
import HostResolver.Proofs.Document.Entries

/-!
Values for the settings, from the root of a document and from the environment.

Owns: which entries of a document speak for the settings, everything that the collecting of values
from a document and from the environment can come to, and what of the values the settings depend on.

Does not own: how the root of a document is read from the text of a file.
-/

namespace HostResolver.Settings

open HostResolver.Document HostResolver.Document.Yaml HostResolver.Files HostResolver.Servers
  HostResolver.Text

/-! ## The entries that count -/

def mapping? : Value → Option Entries
  | .mapping entries => some entries
  | _ => none

/-- The entries at the root of a document. A document that holds nothing has none. -/
def topOf? : Value → Option Entries
  | .null => some []
  | root => mapping? root

/-- The entries that speak for the settings: those under `resolver` if that key is there, else those
at the root. -/
def sectionOf? (top : Entries) : Option Entries :=
  match top.get? "resolver" with
  | none => some top
  | some resolver => mapping? resolver

/-- The value for logging: that at the root, or that in the section if it is absent or null. -/
def loggingAt (top entries : Entries) : Option Value :=
  match top.get? "logging" with
  | none => entries.get? "logging"
  | some found => if found.isNull then entries.get? "logging" else some found

/-- The mapping for logging, empty if there is no value for it. -/
def loggingOf? (top entries : Entries) : Option Entries :=
  match loggingAt top entries with
  | none => some []
  | some found => mapping? found

theorem mapping?_eq_some {value : Value} {entries : Entries}
    (found : mapping? value = some entries) : value = .mapping entries := by
  cases value with
  | mapping others => exact congrArg Value.mapping (Option.some.inj found)
  | _ => exact absurd found.symm (Option.some_ne_none entries)

theorem mappingOr_of_some {error : SettingsError} {value : Value} {entries : Entries}
    (found : mapping? value = some entries) : mappingOr error value = .ok entries := by
  rw [mapping?_eq_some found]
  rfl

theorem mappingOr_of_none {error : SettingsError} {value : Value} (other : mapping? value = none) :
    mappingOr error value = .error error := by
  cases value with
  | mapping entries => exact absurd other (Option.some_ne_none entries)
  | _ => rfl

theorem topOf?_eq_some {root : Value} {top : Entries} (isTop : topOf? root = some top) :
    (root = .null ∧ top = []) ∨ root = .mapping top := by
  cases root with
  | null => exact Or.inl ⟨rfl, (Option.some.inj isTop).symm⟩
  | mapping entries => exact Or.inr (congrArg Value.mapping (Option.some.inj isTop))
  | _ => exact absurd isTop.symm (Option.some_ne_none top)

/-! ## Values of a document -/

theorem get?_filter_isSetting (entries : Entries) (field : Field) :
    Entries.get? (entries.filter isSetting) field.name = entries.get? field.name := by
  have kept (value : Value) : isSetting (.text field.name, value) = true := by
    cases field <;> rfl
  exact Entries.get?_filter kept entries

/-- The values of the section, with the entry for logging at the root in front of its own. -/
def valuesOfSection (top entries : Entries) : Except SettingsError Entries :=
  match (top.get? "logging").or (entries.get? "logging") with
  | none => .ok (entries.filter isSetting)
  | some found =>
      if found.isNull then .ok (entries.filter isSetting)
      else
        (mappingOr (.sectionNotMapping "logging") found).map fun found =>
          Entries.set (entries.filter isSetting) (.text "logging") (.mapping found)

theorem valuesOfDocument_of_off {root : Value} (off : root.isOn = false) :
    valuesOfDocument root = .ok [] := by
  unfold valuesOfDocument
  rw [off]
  rfl

theorem valuesOfDocument_of_on {root : Value} (isOn : root.isOn = true)
    (other : mapping? root = none) : valuesOfDocument root = .error .rootNotMapping := by
  unfold valuesOfDocument
  rw [isOn, mappingOr_of_none other]
  rfl

/-- The entries that speak for the settings, if they are a mapping. -/
def sectionOf (top : Entries) : Except SettingsError Entries :=
  ((top.get? "resolver").map (mappingOr (.sectionNotMapping "resolver"))).getD (.ok top)

theorem ok_bind {ε α β : Type} (value : α) (next : α → Except ε β) :
    (Except.ok value >>= next) = next value := rfl

theorem valuesOfDocument_mapping (top : Entries) :
    valuesOfDocument (.mapping top) = (sectionOf top).bind (valuesOfSection top) := by
  cases top with
  | nil => rfl
  | cons entry rest =>
      unfold valuesOfDocument sectionOf
      have isOn : (Value.mapping (entry :: rest)).isOn = true := rfl
      simp only [isOn, if_true, mappingOr, ok_bind, pure_bind, Field.name]
      cases Entries.get? (entry :: rest) "resolver" with
      | none =>
          change _ = valuesOfSection (entry :: rest) (entry :: rest)
          unfold valuesOfSection
          simp only
          cases (Entries.get? (entry :: rest) "logging").or
              (Entries.get? (entry :: rest) "logging") with
          | none => rfl
          | some value => cases value <;> rfl
      | some found =>
          cases found with
          | mapping entries =>
              change _ = valuesOfSection (entry :: rest) entries
              unfold valuesOfSection
              simp only [ok_bind]
              cases (Entries.get? (entry :: rest) "logging").or
                  (Entries.get? entries "logging") with
              | none => rfl
              | some value => cases value <;> rfl
          | _ => rfl

theorem sectionOf_of_some {top entries : Entries} (isSection : sectionOf? top = some entries) :
    sectionOf top = .ok entries := by
  unfold sectionOf? at isSection
  unfold sectionOf
  cases resolver : top.get? "resolver" with
  | none =>
      rw [resolver] at isSection
      exact congrArg Except.ok (Option.some.inj isSection)
  | some found =>
      rw [resolver] at isSection
      exact mappingOr_of_some isSection

theorem sectionOf_of_none {top : Entries} (noSection : sectionOf? top = none) :
    sectionOf top = .error (.sectionNotMapping "resolver") := by
  unfold sectionOf? at noSection
  unfold sectionOf
  cases resolver : top.get? "resolver" with
  | none =>
      rw [resolver] at noSection
      exact absurd noSection (Option.some_ne_none top)
  | some found =>
      rw [resolver] at noSection
      exact mappingOr_of_none noSection

theorem valuesOfDocument_of_section {root : Value} {top entries : Entries}
    (isTop : topOf? root = some top) (isSection : sectionOf? top = some entries) :
    valuesOfDocument root = valuesOfSection top entries := by
  rcases topOf?_eq_some isTop with ⟨isNull, nothing⟩ | isMapping
  · subst isNull nothing
    rw [← Option.some.inj isSection]
    rfl
  · rw [isMapping, valuesOfDocument_mapping, sectionOf_of_some isSection]
    rfl

theorem valuesOfDocument_of_no_section {root : Value} {top : Entries}
    (isTop : topOf? root = some top) (noSection : sectionOf? top = none) :
    valuesOfDocument root = .error (.sectionNotMapping "resolver") := by
  rcases topOf?_eq_some isTop with ⟨_, nothing⟩ | isMapping
  · subst nothing
    exact absurd noSection (Option.some_ne_none [])
  · rw [isMapping, valuesOfDocument_mapping, sectionOf_of_none noSection]
    rfl

/-- The values that a document gives for settings, by name. -/
structure Gives (top entries values : Entries) : Prop where
  fields : ∀ field : Field, field ≠ .logging → values.get? field.name = entries.get? field.name
  logging : values.get? "logging" = loggingAt top entries

theorem gives_filter {top entries : Entries}
    (looked : loggingAt top entries = entries.get? "logging") :
    Gives top entries (entries.filter isSetting) where
  fields := fun field _ => get?_filter_isSetting entries field
  logging := (get?_filter_isSetting entries .logging).trans looked.symm

theorem gives_set {top entries found : Entries}
    (looked : loggingAt top entries = some (.mapping found)) :
    Gives top entries
      (Entries.set (entries.filter isSetting) (.text "logging") (.mapping found)) where
  fields := by
    intro field other
    have different : Field.logging.name ≠ field.name := by
      cases field with
      | logging => exact absurd rfl other
      | _ => decide
    exact (Entries.get?_set_of_ne different _ _).trans (get?_filter_isSetting entries field)
  logging := (Entries.get?_set_self _ _ _).trans looked.symm

/-- The first of the two entries for logging that is there counts, unless it is null. -/
theorem loggingAt_eq (top entries : Entries) :
    loggingAt top entries =
      match (top.get? "logging").or (entries.get? "logging") with
      | none => none
      | some found => if found.isNull then entries.get? "logging" else some found := by
  unfold loggingAt
  cases top.get? "logging" with
  | some found => rfl
  | none =>
      rw [Option.none_or]
      cases entries.get? "logging" with
      | none => rfl
      | some found => exact (ite_self (some found)).symm

/-- The first of the two entries for logging that is there is neither null nor a mapping. -/
def IsMisplaced (top entries : Entries) : Prop :=
  ∃ found, (top.get? "logging").or (entries.get? "logging") = some found ∧
    found.isNull = false ∧ mapping? found = none

theorem valuesOfSection_of_misplaced {top entries : Entries} (misplaced : IsMisplaced top entries) :
    valuesOfSection top entries = .error (.sectionNotMapping "logging") := by
  obtain ⟨found, first, isNull, shape⟩ := misplaced
  unfold valuesOfSection
  simp only [first, isNull, mappingOr_of_none shape]
  rfl

theorem exists_valuesOfSection {top entries : Entries} (placed : ¬IsMisplaced top entries) :
    ∃ values, valuesOfSection top entries = .ok values ∧ Gives top entries values := by
  have looked := loggingAt_eq top entries
  unfold valuesOfSection
  cases first : (top.get? "logging").or (entries.get? "logging") with
  | none =>
      rw [first] at looked
      have inSection := (Option.or_eq_none_iff.1 first).2
      exact ⟨_, rfl, gives_filter (looked.trans inSection.symm)⟩
  | some found =>
      rw [first] at looked
      cases isNull : found.isNull with
      | true =>
          simp only [isNull] at looked
          refine ⟨_, ?_, gives_filter looked⟩
          simp only [isNull, if_true]
      | false =>
          simp only [isNull] at looked
          cases shape : mapping? found with
          | none => exact absurd ⟨found, first, isNull, shape⟩ placed
          | some mapping =>
              rw [mapping?_eq_some shape] at looked
              refine ⟨_, ?_, gives_set looked⟩
              simp only [isNull, mappingOr_of_some shape]
              rfl

/-! ## Values of the environment -/

theorem name_ne {field other : Field} (different : field ≠ other) : field.name ≠ other.name := by
  revert different
  cases field <;> cases other <;> decide

theorem get?_override_self (field : Field) (given : Option String) (values : Entries) :
    (override field given values).get? field.name =
      (given.map Value.text).or (values.get? field.name) := by
  cases given with
  | none => rfl
  | some text => exact Entries.get?_set_self values field.name (.text text)

theorem get?_override_of_ne {field other : Field} (different : field ≠ other)
    (given : Option String) (values : Entries) :
    (override field given values).get? other.name = values.get? other.name := by
  cases given with
  | none => rfl
  | some text => exact Entries.get?_set_of_ne (name_ne different) values (.text text)

/-- A mapping for logging, its level replaced by one that is set. -/
def withLevel (level : Option String) (logging : Entries) : Entries :=
  match level with
  | none => logging
  | some level => Entries.set logging (.text "level") (.text level)

namespace Overrides

/-- What the environment gives for a setting as a whole. -/
def given (overrides : Overrides) : Field → Option String
  | .resolvConf => overrides.resolvConf
  | .resolverDir => overrides.resolverDir
  | .addressOrder => overrides.addressOrder
  | .logging => none

/-- The level that the environment sets. An empty one counts as absent. -/
def level? (overrides : Overrides) : Option String := overrides.logLevel.filter (· ≠ "")

/-- The values with the whole settings that the environment gives. -/
def overridden (overrides : Overrides) (values : Entries) : Entries :=
  override .addressOrder overrides.addressOrder
    (override .resolverDir overrides.resolverDir
      (override .resolvConf overrides.resolvConf values))

theorem get?_overridden (overrides : Overrides) (values : Entries) (field : Field) :
    (overrides.overridden values).get? field.name =
      ((overrides.given field).map Value.text).or (values.get? field.name) := by
  unfold overridden
  cases field with
  | addressOrder =>
      rw [get?_override_self, get?_override_of_ne (by decide), get?_override_of_ne (by decide)]
      rfl
  | resolverDir =>
      rw [get?_override_of_ne (by decide), get?_override_self, get?_override_of_ne (by decide)]
      rfl
  | resolvConf =>
      rw [get?_override_of_ne (by decide), get?_override_of_ne (by decide), get?_override_self]
      rfl
  | logging =>
      rw [get?_override_of_ne (by decide), get?_override_of_ne (by decide),
        get?_override_of_ne (by decide)]
      rfl

theorem apply_of_no_level {overrides : Overrides} (unset : overrides.level? = none)
    (values : Entries) : overrides.apply values = .ok (overrides.overridden values) := by
  unfold level? at unset
  unfold apply overrideLevel
  cases isLevel : overrides.logLevel with
  | none => rfl
  | some level =>
      rw [isLevel] at unset
      have isEmpty : level = "" := by simpa using unset
      subst isEmpty
      rfl

theorem overrideLevel_of_ne {level : String} (nonempty : level ≠ "") (values : Entries) :
    overrideLevel (some level) values =
      (mappingOr .noLogging ((values.get? "logging").getD (.mapping []))).map fun logging =>
        Entries.set values (.text "logging") (.mapping (withLevel (some level) logging)) := by
  unfold overrideLevel
  split
  · contradiction
  · rename_i isEmpty
    exact absurd (Option.some.inj isEmpty) nonempty
  · rename_i found isLevel
    rw [Option.some.inj isLevel]
    rfl

theorem apply_of_level {overrides : Overrides} {level : String}
    (isSet : overrides.level? = some level) (values : Entries) :
    overrides.apply values =
      (mappingOr .noLogging ((values.get? "logging").getD (.mapping []))).map fun logging =>
        Entries.set (overrides.overridden values) (.text "logging")
          (.mapping (withLevel (some level) logging)) := by
  have kept : Entries.get? (overrides.overridden values) "logging" = values.get? "logging" :=
    get?_overridden overrides values .logging
  unfold level? at isSet
  obtain ⟨isLevel, nonempty⟩ := Option.filter_eq_some_iff.1 isSet
  unfold apply
  rw [isLevel, ← kept]
  exact overrideLevel_of_ne (by simpa using nonempty) (overrides.overridden values)

end Overrides

/-! ## All values -/

/-- The values of a document and of the environment. -/
def collected (root : Value) (overrides : Overrides) : Except SettingsError Entries :=
  (valuesOfDocument root).bind overrides.apply

/-- The value that counts for a setting as a whole: that of the environment, else that of the
section. -/
def counting (overrides : Overrides) (entries : Entries) (field : Field) : Option Value :=
  ((overrides.given field).map Value.text).or (entries.get? field.name)

/-- The values for settings, by name, with those of the environment in front. -/
structure Collects (overrides : Overrides) (top entries values : Entries) : Prop where
  fields : ∀ field : Field, field ≠ .logging →
    values.get? field.name = counting overrides entries field
  logging : overrides.level? = none → values.get? "logging" = loggingAt top entries
  levelled : ∀ level, overrides.level? = some level → ∃ logging,
    loggingOf? top entries = some logging ∧
      values.get? "logging" = some (.mapping (withLevel (some level) logging))

/-- An entry for logging that counts, though it is no mapping, behind one that is null or as one
that is null itself. -/
def HidesLogging (top entries : Entries) : Prop :=
  ∃ found, entries.get? "logging" = some found ∧ mapping? found = none ∧
    (top.get? "logging" = some .null ∨ top.get? "logging" = none ∧ found = .null)

theorem eq_null_of_isNull {value : Value} (isNull : value.isNull = true) : value = .null := by
  cases value with
  | null => rfl
  | _ => exact absurd isNull Bool.false_ne_true

theorem loggingOf?_of_hidesLogging {top entries : Entries} (hides : HidesLogging top entries) :
    loggingOf? top entries = none := by
  obtain ⟨found, inSection, shape, atRoot⟩ := hides
  have looked : loggingAt top entries = some found := by
    unfold loggingAt
    rcases atRoot with isNull | ⟨absent, _⟩
    · rw [isNull]
      exact inSection
    · rw [absent]
      exact inSection
  rw [loggingOf?, looked]
  exact shape

/-- In an entry that is placed well, the mapping for logging is missing only where it is hidden. -/
theorem hidesLogging_of_loggingOf? {top entries : Entries} (placed : ¬IsMisplaced top entries)
    (missing : loggingOf? top entries = none) : HidesLogging top entries := by
  have looked := loggingAt_eq top entries
  unfold loggingOf? at missing
  cases first : (top.get? "logging").or (entries.get? "logging") with
  | none =>
      rw [looked, first] at missing
      exact absurd missing (Option.some_ne_none [])
  | some found =>
      rw [first] at looked
      cases isNull : found.isNull with
      | false =>
          simp only [isNull] at looked
          rw [looked] at missing
          exact absurd ⟨found, first, isNull, missing⟩ placed
      | true =>
          simp only [isNull, if_true] at looked
          rw [eq_null_of_isNull isNull] at first
          rw [looked] at missing
          cases inSection : entries.get? "logging" with
          | none =>
              rw [inSection] at missing
              exact absurd missing (Option.some_ne_none [])
          | some shown =>
              rw [inSection] at missing first
              refine ⟨shown, inSection, missing, ?_⟩
              rcases Option.or_eq_some_iff.1 first with atRoot | ⟨absent, same⟩
              · exact Or.inl atRoot
              · exact Or.inr ⟨absent, Option.some.inj same⟩

theorem mapping?_getD (top entries : Entries) :
    mapping? ((loggingAt top entries).getD (.mapping [])) = loggingOf? top entries := by
  unfold loggingOf?
  cases loggingAt top entries <;> rfl

theorem exists_apply {overrides : Overrides} {top entries values : Entries}
    (gives : Gives top entries values)
    (readable : overrides.level? = none ∨ loggingOf? top entries ≠ none) :
    ∃ later, overrides.apply values = .ok later ∧ Collects overrides top entries later := by
  have whole (field : Field) (other : field ≠ .logging) :
      (overrides.overridden values).get? field.name = counting overrides entries field := by
    rw [overrides.get?_overridden, gives.fields field other]
    rfl
  cases isSet : overrides.level? with
  | none =>
      refine ⟨_, Overrides.apply_of_no_level isSet values, whole, fun _ => ?_, ?_⟩
      · exact (overrides.get?_overridden values .logging).trans gives.logging
      · intro level isLevel
        exact absurd isLevel.symm (by simp [isSet])
  | some level =>
      have given : loggingOf? top entries ≠ none := by simpa [isSet] using readable
      obtain ⟨logging, isLogging⟩ := Option.ne_none_iff_exists'.1 given
      refine ⟨Entries.set (overrides.overridden values) (.text "logging")
        (.mapping (withLevel (some level) logging)), ?_, ?_, ?_, ?_⟩
      · rw [Overrides.apply_of_level isSet, gives.logging,
          mappingOr_of_some ((mapping?_getD top entries).trans isLogging)]
        rfl
      · intro field other
        have different := name_ne other.symm
        exact (Entries.get?_set_of_ne different _ _).trans (whole field other)
      · intro unset
        exact absurd unset (by simp [isSet])
      · intro found isFound
        rw [← Option.some.inj (isSet.symm.trans isFound)]
        exact ⟨logging, isLogging, Entries.get?_set_self _ _ _⟩

theorem apply_of_unreadable {overrides : Overrides} {top entries values : Entries} {level : String}
    (gives : Gives top entries values) (isSet : overrides.level? = some level)
    (unreadable : loggingOf? top entries = none) : overrides.apply values = .error .noLogging := by
  rw [Overrides.apply_of_level isSet, gives.logging,
    mappingOr_of_none ((mapping?_getD top entries).trans unreadable)]
  rfl

/-- **What the collecting of values from a mapping comes to.** Besides the two refusals of sections,
a level that is to be set in a hidden entry for logging stops it. -/
theorem collected_cases {root : Value} {top entries : Entries} (isTop : topOf? root = some top)
    (isSection : sectionOf? top = some entries) (overrides : Overrides) :
    (IsMisplaced top entries ∧
        collected root overrides = .error (.sectionNotMapping "logging")) ∨
      (¬IsMisplaced top entries ∧ overrides.level? ≠ none ∧ HidesLogging top entries ∧
        collected root overrides = .error .noLogging) ∨
      (¬IsMisplaced top entries ∧ (overrides.level? = none ∨ ¬HidesLogging top entries) ∧
        ∃ values, collected root overrides = .ok values ∧
          Collects overrides top entries values) := by
  unfold collected
  rw [valuesOfDocument_of_section isTop isSection]
  by_cases misplaced : IsMisplaced top entries
  · refine Or.inl ⟨misplaced, ?_⟩
    rw [valuesOfSection_of_misplaced misplaced]
    rfl
  obtain ⟨values, isValues, gives⟩ := exists_valuesOfSection misplaced
  rw [isValues]
  refine Or.inr ?_
  by_cases hides : HidesLogging top entries
  · cases isSet : overrides.level? with
    | none =>
        exact Or.inr ⟨misplaced, Or.inl rfl, exists_apply gives (Or.inl isSet)⟩
    | some level =>
        have stopped := apply_of_unreadable gives isSet (loggingOf?_of_hidesLogging hides)
        exact Or.inl ⟨misplaced, Option.some_ne_none level, hides, stopped⟩
  · have readable : loggingOf? top entries ≠ none :=
      fun missing => hides (hidesLogging_of_loggingOf? misplaced missing)
    exact Or.inr ⟨misplaced, Or.inr hides, exists_apply gives (Or.inr readable)⟩

end HostResolver.Settings
