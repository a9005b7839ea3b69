import HostResolver.Proofs.Settings.Loading

/-!
Refusals of settings documents.

Owns: where a document has something else in the place of a mapping, and exactly which documents
keep the contract that settings are loaded or refused, the misshapen ones refused.

Does not own: faults of files and of texts that are no documents.

Two documents break the contract. A root that holds nothing in any other way than as null, such as
an empty list, is taken for no document at all. And an entry for logging that is null, or that
stands behind one that is null, is not looked at before the level of the environment is set in it.
-/

namespace HostResolver.Settings

open HostResolver.Config HostResolver.Document HostResolver.Document.Yaml HostResolver.Files
  HostResolver.Servers HostResolver.Text

/-- Whether the settings are refused for what they say. -/
def SettingsError.isRefusal : SettingsError → Bool
  | .rootNotMapping | .sectionNotMapping _ | .invalid _ => true
  | _ => false

def IsRefused (loaded : Except SettingsError ResolverSettings) : Prop :=
  ∃ error, loaded = .error error ∧ error.isRefusal = true

/-- A document with something else in the place of a mapping. -/
inductive IsMisshapen (root : Value) : Prop where
  | atRoot (noTop : topOf? root = none)
  | resolver {top : Entries} {found : Value} (isTop : topOf? root = some top)
      (atRoot : top.get? "resolver" = some found) (other : mapping? found = none)
  | rootLogging {top : Entries} {found : Value} (isTop : topOf? root = some top)
      (atRoot : top.get? "logging" = some found) (shown : found.isNull = false)
      (other : mapping? found = none)
  | sectionLogging {top entries : Entries} {found : Value} (isTop : topOf? root = some top)
      (isSection : sectionOf? top = some entries)
      (atRoot : top.get? "logging" = none ∨ top.get? "logging" = some .null)
      (inSection : entries.get? "logging" = some found) (other : mapping? found = none)

structure KeepsContract (root : Value) (loaded : Except SettingsError ResolverSettings) : Prop where
  settled : (∃ settings, loaded = .ok settings) ∨ IsRefused loaded
  refused : IsMisshapen root → IsRefused loaded

/-- A root that is neither null nor a mapping and holds nothing. -/
def IsTakenForEmpty (root : Value) : Prop := topOf? root = none ∧ root.isOn = false

/-- An entry for logging stands in a document that is not looked at before a level is set in it. -/
def HidesLoggingIn (root : Value) : Prop :=
  ∃ top entries, topOf? root = some top ∧ sectionOf? top = some entries ∧ HidesLogging top entries

/-- Whatever the environment says of the order names one. -/
def NamesOrder (overrides : Overrides) : Prop :=
  ∀ text, overrides.addressOrder = some text → Order.read? text ≠ none

/-! ## Shapes -/

theorem not_isMisplaced_of_hidesLogging {top entries : Entries}
    (hides : HidesLogging top entries) : ¬IsMisplaced top entries := by
  rintro ⟨found, first, shown, _⟩
  obtain ⟨other, inSection, _, atRoot⟩ := hides
  have isNull : found = .null := by
    rcases atRoot with atRoot | ⟨absent, isNull⟩
    · rw [atRoot, Option.some_or] at first
      exact (Option.some.inj first).symm
    · rw [absent, Option.none_or, inSection, isNull] at first
      exact (Option.some.inj first).symm
  rw [isNull] at shown
  exact Bool.noConfusion shown

theorem isMisplaced_or_hidesLogging {root : Value} {top entries : Entries}
    (isTop : topOf? root = some top) (isSection : sectionOf? top = some entries)
    (misshapen : IsMisshapen root) : IsMisplaced top entries ∨ HidesLogging top entries := by
  cases misshapen with
  | atRoot noTop => exact absurd (isTop.symm.trans noTop) (Option.some_ne_none top)
  | @resolver _ found sameTop atRoot other =>
      rw [← Option.some.inj (isTop.symm.trans sameTop)] at atRoot
      rw [sectionOf?, atRoot] at isSection
      exact absurd (isSection.symm.trans other) (Option.some_ne_none entries)
  | @rootLogging _ found sameTop atRoot shown other =>
      rw [← Option.some.inj (isTop.symm.trans sameTop)] at atRoot
      refine Or.inl ⟨found, ?_, shown, other⟩
      rw [atRoot, Option.some_or]
  | @sectionLogging _ _ found sameTop sameSection atRoot inSection other =>
      rw [← Option.some.inj (isTop.symm.trans sameTop)] at atRoot sameSection
      rw [← Option.some.inj (isSection.symm.trans sameSection)] at inSection
      rcases atRoot with absent | isNull
      · cases shown : found.isNull with
        | true =>
            exact Or.inr ⟨found, inSection, other, Or.inr ⟨absent, eq_null_of_isNull shown⟩⟩
        | false =>
            refine Or.inl ⟨found, ?_, shown, other⟩
            rw [absent, Option.none_or, inSection]
      · exact Or.inr ⟨found, inSection, other, Or.inl isNull⟩

theorem isMisshapen_of_hidesLogging {root : Value} {top entries : Entries}
    (isTop : topOf? root = some top) (isSection : sectionOf? top = some entries)
    (hides : HidesLogging top entries) : IsMisshapen root := by
  obtain ⟨found, inSection, other, atRoot⟩ := hides
  refine .sectionLogging isTop isSection ?_ inSection other
  rcases atRoot with isNull | ⟨absent, _⟩
  · exact Or.inr isNull
  · exact Or.inl absent

/-! ## What loading comes to -/

theorem isRefused_of_collected {tree : FileTree} {path : Option String} {root : Value}
    {overrides : Overrides} {error : SettingsError} (isRoot : rootAt tree path = .ok root)
    (stopped : collected root overrides = .error error) (refusal : error.isRefusal = true) :
    IsRefused (ResolverSettings.load tree path overrides) := by
  refine ⟨error, ?_, refusal⟩
  rw [load_of_rootAt isRoot, stopped]
  rfl

theorem settled_of_collected {tree : FileTree} {path : Option String} {root : Value}
    {overrides : Overrides} {values : Entries} (isRoot : rootAt tree path = .ok root)
    (found : collected root overrides = .ok values) :
    (∃ settings, ResolverSettings.validate values = .ok settings ∧
        ResolverSettings.load tree path overrides = .ok settings) ∨
      IsRefused (ResolverSettings.load tree path overrides) := by
  rw [load_of_rootAt isRoot, found]
  cases valid : ResolverSettings.validate values with
  | ok settings =>
      refine Or.inl ⟨settings, rfl, ?_⟩
      change (ResolverSettings.validate values).mapError _ = _
      rw [valid]
      rfl
  | error complaints =>
      refine Or.inr ⟨.invalid complaints, ?_, rfl⟩
      change (ResolverSettings.validate values).mapError _ = _
      rw [valid]
      rfl

theorem exists_comesOf_checkPath (field : Field) (default : Option String)
    (given : Option String) :
    ∃ result, ComesOf (checkPath field) default ((given.map Value.text).or none) result := by
  cases given with
  | none => exact ⟨default, rfl⟩
  | some text => exact ⟨pathOf text, rfl⟩

theorem exists_comesOf_checkOrder_iff (given : Option String) :
    (∃ result, ComesOf checkOrder .random ((given.map Value.text).or none) result) ↔
      ∀ text, given = some text → Order.read? text ≠ none := by
  cases given with
  | none =>
      refine ⟨fun _ text absent => ?_, fun _ => ⟨.random, rfl⟩⟩
      exact absurd absent.symm (Option.some_ne_none text)
  | some text =>
      cases isRead : Order.read? text with
      | none =>
          refine ⟨fun taken => ?_, fun named => absurd isRead (named text rfl)⟩
          obtain ⟨result, isTaken⟩ := taken
          exact absurd ((checkOrder_of_unread isRead).symm.trans isTaken) (by simp)
      | some order =>
          refine ⟨fun _ other same => ?_, fun _ => ⟨order, checkOrder_of_read? isRead⟩⟩
          rw [← Option.some.inj same, isRead]
          exact Option.some_ne_none order

theorem exists_comesOf_logging {overrides : Overrides} {values : Entries}
    (collects : Collects overrides [] [] values) :
    ∃ result, ComesOf checkMapping [] (values.get? Field.logging.name) result := by
  have taken : ∃ result, checkMapping (.mapping (withLevel overrides.level? [])) = .ok result := by
    cases overrides.level? with
    | none => exact ⟨[], rfl⟩
    | some level => exact ⟨_, rfl⟩
  obtain ⟨result, isResult⟩ := taken
  exact ⟨result, (comesOf_logging_iff collects).2 ⟨[], rfl, isResult⟩⟩

/-- The values of the environment alone are taken if it names an order or none at all. -/
theorem exists_validate_iff {overrides : Overrides} {values : Entries}
    (collects : Collects overrides [] [] values) :
    (∃ settings, ResolverSettings.validate values = .ok settings) ↔ NamesOrder overrides := by
  have whole (field : Field) (other : field ≠ .logging) :
      values.get? field.name = ((overrides.given field).map Value.text).or none :=
    collects.fields field other
  rw [NamesOrder, ← exists_comesOf_checkOrder_iff]
  constructor
  · rintro ⟨settings, valid⟩
    have order := (validate_eq_ok_iff.1 valid).2.2.1
    rw [whole .addressOrder (by decide)] at order
    exact ⟨_, order⟩
  · rintro ⟨addressOrder, order⟩
    obtain ⟨resolvConf, primary⟩ :=
      exists_comesOf_checkPath .resolvConf (some "/etc/resolv.conf") overrides.resolvConf
    obtain ⟨resolverDir, directory⟩ :=
      exists_comesOf_checkPath .resolverDir (some "/etc/resolver") overrides.resolverDir
    obtain ⟨logging, mapping⟩ := exists_comesOf_logging collects
    refine ⟨⟨resolvConf, resolverDir, addressOrder, logging⟩, validate_eq_ok_iff.2 ?_⟩
    rw [whole .resolvConf (by decide), whole .resolverDir (by decide),
      whole .addressOrder (by decide)]
    exact ⟨primary, directory, order, mapping⟩

theorem collected_of_off {root : Value} (off : root.isOn = false) (overrides : Overrides) :
    ∃ values, collected root overrides = .ok values ∧ Collects overrides [] [] values := by
  unfold collected
  rw [valuesOfDocument_of_off off]
  exact exists_apply ⟨fun _ _ => rfl, rfl⟩ (Or.inr (Option.some_ne_none []))

theorem not_isOk_of_hidden {overrides : Overrides} {top entries values : Entries}
    {settings : ResolverSettings} (collects : Collects overrides top entries values)
    (hides : HidesLogging top entries) : ResolverSettings.validate values ≠ .ok settings := by
  intro valid
  have comesOf := (validate_eq_ok_iff.1 valid).2.2.2
  obtain ⟨logging, isLogging, _⟩ := (comesOf_logging_iff collects).1 comesOf
  have missing := loggingOf?_of_hidesLogging hides
  exact absurd (isLogging.symm.trans missing) (Option.some_ne_none logging)

/-! ## The contract -/

variable {tree : FileTree} {path : Option String} {root : Value} {overrides : Overrides}

theorem keepsContract_of_refused {loaded : Except SettingsError ResolverSettings}
    (refused : IsRefused loaded) : KeepsContract root loaded :=
  ⟨Or.inr refused, fun _ => refused⟩

theorem keepsContract_iff_of_off (isRoot : rootAt tree path = .ok root) (noTop : topOf? root = none)
    (off : root.isOn = false) :
    KeepsContract root (ResolverSettings.load tree path overrides) ↔ ¬NamesOrder overrides := by
  obtain ⟨values, found, collects⟩ := collected_of_off off overrides
  have taken := exists_validate_iff collects
  rcases settled_of_collected isRoot found with ⟨settings, valid, loaded⟩ | refused
  · refine ⟨fun keeps => ?_, fun unnamed => absurd (taken.1 ⟨settings, valid⟩) unnamed⟩
    obtain ⟨error, isError, _⟩ := keeps.refused (.atRoot noTop)
    exact absurd (loaded.symm.trans isError) (by simp)
  · refine ⟨fun _ named => ?_, fun _ => keepsContract_of_refused refused⟩
    obtain ⟨settings, valid⟩ := taken.2 named
    obtain ⟨error, isError, _⟩ := refused
    rw [load_of_rootAt isRoot, found] at isError
    change (ResolverSettings.validate values).mapError _ = _ at isError
    rw [valid] at isError
    exact absurd isError (by simp [Except.mapError])

theorem keepsContract_iff_of_section {top entries : Entries}
    (isRoot : rootAt tree path = .ok root) (isTop : topOf? root = some top)
    (isSection : sectionOf? top = some entries) :
    KeepsContract root (ResolverSettings.load tree path overrides) ↔
      ¬(overrides.level? ≠ none ∧ HidesLogging top entries) := by
  rcases collected_cases isTop isSection overrides with
    ⟨misplaced, stopped⟩ | ⟨_, isSet, hides, stopped⟩ | ⟨placed, shown, values, found, collects⟩
  · have refused := isRefused_of_collected isRoot stopped rfl
    refine ⟨fun _ both => ?_, fun _ => keepsContract_of_refused refused⟩
    exact not_isMisplaced_of_hidesLogging both.2 misplaced
  · refine ⟨fun keeps => ?_, fun neither => absurd ⟨isSet, hides⟩ neither⟩
    obtain ⟨error, isError, refusal⟩ :=
      keeps.refused (isMisshapen_of_hidesLogging isTop isSection hides)
    rw [load_of_rootAt isRoot, stopped] at isError
    rw [← Except.error.inj isError] at refusal
    exact absurd refusal Bool.false_ne_true
  · refine ⟨fun _ both => shown.elim both.1 fun unhidden => unhidden both.2, fun _ => ?_⟩
    rcases settled_of_collected isRoot found with ⟨settings, valid, loaded⟩ | refused
    · refine ⟨Or.inl ⟨settings, loaded⟩, fun misshapen => ?_⟩
      have hides := (isMisplaced_or_hidesLogging isTop isSection misshapen).resolve_left placed
      exact absurd valid (not_isOk_of_hidden collects hides)
    · exact keepsContract_of_refused refused

theorem keepsContract_iff_of_stopped {error : SettingsError} (isRoot : rootAt tree path = .ok root)
    (stopped : collected root overrides = .error error) (refusal : error.isRefusal = true)
    (notEmpty : ¬IsTakenForEmpty root) (unhidden : ¬HidesLoggingIn root) :
    KeepsContract root (ResolverSettings.load tree path overrides) ↔
      ¬(IsTakenForEmpty root ∧ NamesOrder overrides) ∧
        ¬(overrides.level? ≠ none ∧ HidesLoggingIn root) :=
  iff_of_true (keepsContract_of_refused (isRefused_of_collected isRoot stopped refusal))
    ⟨fun both => notEmpty both.1, fun both => unhidden both.2⟩

theorem collected_of_no_top (noTop : topOf? root = none) (isOn : root.isOn = true) :
    collected root overrides = .error .rootNotMapping := by
  have other : mapping? root = none := by
    cases root with
    | null => exact absurd noTop (Option.some_ne_none [])
    | _ => exact noTop
  unfold collected
  rw [valuesOfDocument_of_on isOn other]
  rfl

theorem collected_of_no_section {top : Entries} (isTop : topOf? root = some top)
    (noSection : sectionOf? top = none) :
    collected root overrides = .error (.sectionNotMapping "resolver") := by
  unfold collected
  rw [valuesOfDocument_of_no_section isTop noSection]
  rfl

theorem hidesLoggingIn_iff {top entries : Entries} (isTop : topOf? root = some top)
    (isSection : sectionOf? top = some entries) :
    HidesLoggingIn root ↔ HidesLogging top entries := by
  constructor
  · rintro ⟨other, others, sameTop, sameSection, hides⟩
    rw [← Option.some.inj (isTop.symm.trans sameTop)] at sameSection hides
    rwa [← Option.some.inj (isSection.symm.trans sameSection)] at hides
  · exact fun hides => ⟨top, entries, isTop, isSection, hides⟩

/-- **Settings are loaded or refused, and misshapen documents are refused, exactly unless the root
is taken for an empty one or a level is set in an entry for logging that nobody has looked at.** -/
theorem load_keepsContract_iff (isRoot : rootAt tree path = .ok root)
    (environment : String → Option String) :
    KeepsContract root (ResolverSettings.load tree path (.ofEnvironment environment)) ↔
      ¬(IsTakenForEmpty root ∧ NamesOrder (.ofEnvironment environment)) ∧
        ¬((Overrides.ofEnvironment environment).level? ≠ none ∧ HidesLoggingIn root) := by
  cases isTop : topOf? root with
  | none =>
      have unhidden : ¬HidesLoggingIn root := by
        rintro ⟨top, _, isSome, _⟩
        exact absurd (isSome.symm.trans isTop) (Option.some_ne_none top)
      cases isOn : root.isOn with
      | true =>
          have notEmpty : ¬IsTakenForEmpty root :=
            fun taken => Bool.false_ne_true (taken.2.symm.trans isOn)
          exact keepsContract_iff_of_stopped isRoot (collected_of_no_top isTop isOn) rfl notEmpty
            unhidden
      | false =>
          rw [keepsContract_iff_of_off isRoot isTop isOn]
          constructor
          · exact fun unnamed => ⟨fun both => unnamed both.2, fun both => unhidden both.2⟩
          · exact fun holds named => holds.1 ⟨⟨isTop, isOn⟩, named⟩
  | some top =>
      have notEmpty : ¬IsTakenForEmpty root :=
        fun taken => absurd (isTop.symm.trans taken.1) (Option.some_ne_none top)
      cases isSection : sectionOf? top with
      | none =>
          have unhidden : ¬HidesLoggingIn root := by
            rintro ⟨other, entries, sameTop, isSome, _⟩
            rw [← Option.some.inj (isTop.symm.trans sameTop)] at isSome
            exact absurd (isSome.symm.trans isSection) (Option.some_ne_none entries)
          exact keepsContract_iff_of_stopped isRoot (collected_of_no_section isTop isSection) rfl
            notEmpty unhidden
      | some entries =>
          rw [keepsContract_iff_of_section isRoot isTop isSection,
            hidesLoggingIn_iff isTop isSection]
          exact ⟨fun keeps => ⟨fun both => notEmpty both.1, keeps⟩, fun holds => holds.2⟩

/-! ### Samples -/

def nullLogging : Value := .mapping [(.text "logging", .null)]

theorem rootAt_nullLogging :
    rootAt (documentTree "logging:\n") (some "settings") = .ok nullLogging :=
  rootAt_documentTree (by decide +kernel) (by decide +kernel)

theorem rootAt_emptyList : rootAt (documentTree "[]\n") (some "settings") = .ok (.list []) :=
  rootAt_documentTree (by decide +kernel) (by decide +kernel)

theorem load_keepsContract_iff_met :
    rootAt (documentTree "logging:\n") (some "settings") = .ok nullLogging ∧
      IsMisshapen nullLogging ∧
      KeepsContract nullLogging
        (ResolverSettings.load (documentTree "logging:\n") (some "settings")
          (.ofEnvironment fun _ => none)) := by
  refine ⟨rootAt_nullLogging, .sectionLogging rfl rfl (Or.inr rfl) rfl rfl, ?_⟩
  refine (load_keepsContract_iff rootAt_nullLogging fun _ => none).2 ⟨?_, ?_⟩
  · exact fun both => nomatch both.1.1
  · exact fun both => both.1 rfl

theorem load_misshapen_not_refused :
    ResolverSettings.load (documentTree "logging:\n") (some "settings")
        (.ofEnvironment debugEnvironment) = .error .noLogging ∧
      IsMisshapen nullLogging ∧ SettingsError.noLogging.isRefusal = false ∧
      ResolverSettings.load (documentTree "[]\n") (some "settings") (.ofEnvironment fun _ => none) =
        .ok {} ∧
      IsMisshapen (.list []) := by
  refine ⟨?_, .sectionLogging rfl rfl (Or.inr rfl) rfl rfl, rfl, ?_, .atRoot rfl⟩
  · rw [load_of_rootAt rootAt_nullLogging]
    rfl
  · rw [load_of_rootAt rootAt_emptyList]
    rfl

end HostResolver.Settings
