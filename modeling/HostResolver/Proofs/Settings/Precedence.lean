import HostResolver.Proofs.Settings.Loading
import HostResolver.Proofs.Settings.NamedEntries

/-!
Which of the values given for a setting counts.

Owns: the settings as a function of the values that count for them, and with it that nothing else in
a document or in the environment has a say.

Does not own: documents that are refused.

The level of the environment is set in the mapping for logging before the keys of that mapping are
read as texts. A key of bytes that reads `level`, behind the text `level`, therefore wins over the
environment.
-/

namespace HostResolver.Settings

open HostResolver.Config HostResolver.Document HostResolver.Document.Yaml HostResolver.Files
  HostResolver.Servers HostResolver.Text

variable {tree : FileTree} {path : Option String} {root : Value} {top entries logging : Entries}
  {overrides : Overrides} {settings : ResolverSettings}

/-! ## Settings and the values they come of -/

/-- The whole settings are what the checks make of the values that count for them. -/
structure TakesFields (overrides : Overrides) (entries : Entries) (settings : ResolverSettings) :
    Prop where
  resolvConf : ComesOf (checkPath .resolvConf) (some "/etc/resolv.conf")
    (counting overrides entries .resolvConf) settings.resolvConf
  resolverDir : ComesOf (checkPath .resolverDir) (some "/etc/resolver")
    (counting overrides entries .resolverDir) settings.resolverDir
  addressOrder : ComesOf checkOrder .random
    (counting overrides entries .addressOrder) settings.addressOrder

theorem validate_eq_ok_iff_of_collects {values : Entries}
    (collects : Collects overrides top entries values) :
    ResolverSettings.validate values = .ok settings ↔
      TakesFields overrides entries settings ∧ ∃ logging, loggingOf? top entries = some logging ∧
        checkMapping (.mapping (withLevel overrides.level? logging)) = .ok settings.logging := by
  rw [validate_eq_ok_iff, comesOf_logging_iff collects, collects.fields .resolvConf (by decide),
    collects.fields .resolverDir (by decide), collects.fields .addressOrder (by decide)]
  constructor
  · exact fun ⟨resolvConf, resolverDir, order, mapping⟩ =>
      ⟨⟨resolvConf, resolverDir, order⟩, mapping⟩
  · exact fun ⟨fields, mapping⟩ =>
      ⟨fields.resolvConf, fields.resolverDir, fields.addressOrder, mapping⟩

theorem load_eq_ok_iff_of_collected {values : Entries} (isRoot : rootAt tree path = .ok root)
    (found : collected root overrides = .ok values) :
    ResolverSettings.load tree path overrides = .ok settings ↔
      ResolverSettings.validate values = .ok settings := by
  rw [load_of_rootAt isRoot, found]
  change (ResolverSettings.validate values).mapError _ = _ ↔ _
  cases ResolverSettings.validate values with
  | ok other =>
      exact ⟨fun same => congrArg Except.ok (Except.ok.inj same),
        fun same => congrArg Except.ok (Except.ok.inj same)⟩
  | error complaints => exact iff_of_false (fun same => nomatch same) (fun same => nomatch same)

theorem loggingOf?_of_isMisplaced (misplaced : IsMisplaced top entries) :
    loggingOf? top entries = none := by
  obtain ⟨found, first, shown, other⟩ := misplaced
  have looked : loggingAt top entries = some found := by
    rw [loggingAt_eq, first]
    exact if_neg (by simp [shown])
  rw [loggingOf?, looked]
  exact other

/-- **The settings that are loaded are those that the checks make of the values that count.** -/
theorem load_eq_ok_iff (isRoot : rootAt tree path = .ok root) (isTop : topOf? root = some top)
    (isSection : sectionOf? top = some entries) :
    ResolverSettings.load tree path overrides = .ok settings ↔
      TakesFields overrides entries settings ∧ ∃ logging, loggingOf? top entries = some logging ∧
        checkMapping (.mapping (withLevel overrides.level? logging)) = .ok settings.logging := by
  have unloaded {error : SettingsError} (stopped : collected root overrides = .error error) :
      ResolverSettings.load tree path overrides ≠ .ok settings := by
    rw [load_of_rootAt isRoot, stopped]
    exact fun impossible => nomatch impossible
  have unmet (missing : loggingOf? top entries = none) : ¬∃ logging,
      loggingOf? top entries = some logging ∧ checkMapping (.mapping
        (withLevel overrides.level? logging)) = .ok settings.logging := by
    rintro ⟨logging, isSome, _⟩
    exact absurd (isSome.symm.trans missing) (Option.some_ne_none logging)
  rcases collected_cases isTop isSection overrides with
    ⟨misplaced, stopped⟩ | ⟨_, _, hides, stopped⟩ | ⟨_, _, values, found, collects⟩
  · exact iff_of_false (unloaded stopped)
      fun both => unmet (loggingOf?_of_isMisplaced misplaced) both.2
  · exact iff_of_false (unloaded stopped)
      fun both => unmet (loggingOf?_of_hidesLogging hides) both.2
  · rw [load_eq_ok_iff_of_collected isRoot found, validate_eq_ok_iff_of_collects collects]

theorem checkMapping_of_sound {found : Entries} (sound : (keyComplaints found).isEmpty = true) :
    checkMapping (.mapping found) = .ok (namedEntries found) := if_pos sound

theorem eq_namedEntries_of_checkMapping {found result : Entries}
    (taken : checkMapping (.mapping found) = .ok result) : result = namedEntries found := by
  by_cases sound : (keyComplaints found).isEmpty
  · exact Except.ok.inj (taken.symm.trans (checkMapping_of_sound sound))
  · have refused : checkMapping (.mapping found) = .error (keyComplaints found) := if_neg sound
    exact absurd (taken.symm.trans refused) (by simp)

theorem exists_section_of_load (isRoot : rootAt tree path = .ok root)
    (isTop : topOf? root = some top)
    (loaded : ResolverSettings.load tree path overrides = .ok settings) :
    ∃ entries, sectionOf? top = some entries := by
  cases isSection : sectionOf? top with
  | some entries => exact ⟨entries, rfl⟩
  | none =>
      rw [load_of_rootAt isRoot, collected,
        valuesOfDocument_of_no_section isTop isSection] at loaded
      exact nomatch loaded

/-! ## The level of the environment -/

/-- No key behind `level` reads `level`, except for one with the level that the environment sets. -/
def LevelStands (level : Option String) (logging : Entries) : Prop :=
  ∀ text, level = some text → ∀ last, (namedEntries (behind "level" logging)).get? "level" =
    some last → last = .text text

theorem namedEntries_withLevel_iff (level : Option String) (logging : Entries) :
    namedEntries (withLevel level logging) = withLevel level (namedEntries logging) ↔
      LevelStands level logging := by
  cases level with
  | none => exact iff_of_true rfl fun text absent => absurd absent.symm (Option.some_ne_none text)
  | some text =>
      refine (namedEntries_set_iff logging "level" (.text text)).trans ?_
      constructor
      · intro lastIs other same
        rw [← Option.some.inj same]
        exact lastIs
      · exact fun stands => stands text rfl

theorem levelStands_of_texts {level : Option String} (texts : HasTextKeys logging) :
    LevelStands level logging := by
  rw [← namedEntries_withLevel_iff, namedEntries_of_texts texts]
  cases level with
  | none => exact namedEntries_of_texts texts
  | some text => exact namedEntries_of_texts (hasTextKeys_set texts "level" (.text text))

/-! ## Precedence -/

/-- Two documents and environments give the same values for the settings. What else stands in them
does not matter. -/
structure GivesSame (overrides others : Overrides) (top entries otherTop otherEntries : Entries) :
    Prop where
  fields : ∀ field : Field, field ≠ .logging →
    counting others otherEntries field = counting overrides entries field
  logging : loggingOf? otherTop otherEntries = loggingOf? top entries
  level : others.level? = overrides.level?

theorem takesFields_congr {others : Overrides} {otherEntries : Entries}
    (same : ∀ field : Field, field ≠ .logging →
      counting others otherEntries field = counting overrides entries field)
    (takes : TakesFields overrides entries settings) :
    TakesFields others otherEntries settings where
  resolvConf := by
    rw [same .resolvConf (by decide)]
    exact takes.resolvConf
  resolverDir := by
    rw [same .resolverDir (by decide)]
    exact takes.resolverDir
  addressOrder := by
    rw [same .addressOrder (by decide)]
    exact takes.addressOrder

theorem load_congr {others : Overrides} {otherTree : FileTree} {otherPath : Option String}
    {otherRoot : Value} {otherTop otherEntries : Entries} (isRoot : rootAt tree path = .ok root)
    (isTop : topOf? root = some top) (isSection : sectionOf? top = some entries)
    (isOtherRoot : rootAt otherTree otherPath = .ok otherRoot)
    (isOtherTop : topOf? otherRoot = some otherTop)
    (isOtherSection : sectionOf? otherTop = some otherEntries)
    (same : GivesSame overrides others top entries otherTop otherEntries)
    (loaded : ResolverSettings.load tree path overrides = .ok settings) :
    ResolverSettings.load otherTree otherPath others = .ok settings := by
  obtain ⟨takes, logging⟩ := (load_eq_ok_iff isRoot isTop isSection).1 loaded
  refine (load_eq_ok_iff isOtherRoot isOtherTop isOtherSection).2 ⟨?_, ?_⟩
  · exact takesFields_congr same.fields takes
  · rwa [same.logging, same.level]

/-- **Every setting comes of the value that counts for it, and of no other. The level of the
environment is the level for logging exactly if no later key that reads `level` stands against
it.** -/
theorem load_precedence (isRoot : rootAt tree path = .ok root) (isTop : topOf? root = some top)
    (environment : String → Option String)
    (loaded : ResolverSettings.load tree path (.ofEnvironment environment) = .ok settings) :
    ∃ entries logging, sectionOf? top = some entries ∧ loggingOf? top entries = some logging ∧
      TakesFields (.ofEnvironment environment) entries settings ∧
      settings.logging =
        namedEntries (withLevel (Overrides.ofEnvironment environment).level? logging) ∧
      (settings.logging =
          withLevel (Overrides.ofEnvironment environment).level? (namedEntries logging) ↔
        LevelStands (Overrides.ofEnvironment environment).level? logging) ∧
      (HasTextKeys logging →
        settings.logging = withLevel (Overrides.ofEnvironment environment).level? logging) ∧
      ∀ (otherTree : FileTree) (otherPath : Option String) (otherRoot : Value)
        (otherTop otherEntries : Entries) (otherEnvironment : String → Option String),
        rootAt otherTree otherPath = .ok otherRoot → topOf? otherRoot = some otherTop →
        sectionOf? otherTop = some otherEntries →
        GivesSame (.ofEnvironment environment) (.ofEnvironment otherEnvironment) top entries
          otherTop otherEntries →
        ResolverSettings.load otherTree otherPath (.ofEnvironment otherEnvironment) =
          .ok settings := by
  obtain ⟨entries, isSection⟩ := exists_section_of_load isRoot isTop loaded
  obtain ⟨takes, logging, isLogging, taken⟩ := (load_eq_ok_iff isRoot isTop isSection).1 loaded
  have named := eq_namedEntries_of_checkMapping taken
  have stands := namedEntries_withLevel_iff (Overrides.ofEnvironment environment).level? logging
  refine ⟨entries, logging, isSection, isLogging, takes, named, ?_, ?_, ?_⟩
  · rw [named]
    exact stands
  · intro texts
    rw [named, stands.2 (levelStands_of_texts texts), namedEntries_of_texts texts]
  · intro _ _ _ _ _ _ isOtherRoot isOtherTop isOtherSection same
    exact load_congr isRoot isTop isSection isOtherRoot isOtherTop isOtherSection same loaded

/-! ### Samples -/

/-- An order at the root beside a section, and one in the environment. -/
def layeredText : String :=
  "address_order: random\nresolver:\n  resolv_conf: hosts\nlogging:\n  level: info\n"

def layeredTop : Entries :=
  [(.text "address_order", .text "random"),
    (.text "resolver", .mapping [(.text "resolv_conf", .text "hosts")]),
    (.text "logging", .mapping [(.text "level", .text "info")])]

def layeredEnvironment (name : String) : Option String :=
  [("UNIXRESOLVER_ADDRESS_ORDER", "Failover"), ("UNIXRESOLVER_LOG_LEVEL", "debug")].lookup name

def layeredSettings : ResolverSettings :=
  ⟨some "hosts", some "/etc/resolver", .failover, [(.text "level", .text "debug")]⟩

theorem rootAt_layered : rootAt (documentTree layeredText) (some "settings") =
    .ok (.mapping layeredTop) :=
  rootAt_documentTree (by decide +kernel) (by decide +kernel)

theorem load_layered : ResolverSettings.load (documentTree layeredText) (some "settings")
    (.ofEnvironment layeredEnvironment) = .ok layeredSettings := by
  refine (load_eq_ok_iff rootAt_layered rfl rfl).2 ⟨⟨?_, rfl, ?_⟩, _, rfl, rfl⟩
  · have kept : pathOf "hosts" = some "hosts" := by decide +kernel
    exact congrArg Except.ok kept
  · exact checkOrder_of_read? (by decide +kernel)

theorem load_precedence_met :
    rootAt (documentTree layeredText) (some "settings") = .ok (.mapping layeredTop) ∧
      ResolverSettings.load (documentTree layeredText) (some "settings")
        (.ofEnvironment layeredEnvironment) = .ok layeredSettings ∧
      ∃ entries logging, sectionOf? layeredTop = some entries ∧
        loggingOf? layeredTop entries = some logging ∧
        TakesFields (.ofEnvironment layeredEnvironment) entries layeredSettings ∧
        layeredSettings.logging = namedEntries (withLevel (some "debug") logging) := by
  obtain ⟨entries, logging, isSection, isLogging, takes, named, _⟩ :=
    load_precedence rootAt_layered rfl layeredEnvironment load_layered
  exact ⟨rootAt_layered, load_layered, entries, logging, isSection, isLogging, takes, named⟩

/-- The key `level` twice, the second time as bytes. -/
def twofoldText : String := "logging:\n  level: info\n  !!binary bGV2ZWw=: warn\n"

def twofoldLogging : Entries :=
  [(.text "level", .text "info"), (.bytes (asciiBytes "level"), .text "warn")]

def twofoldSettings : ResolverSettings := { logging := [(.text "level", .text "warn")] }

theorem rootAt_twofold : rootAt (documentTree twofoldText) (some "settings") =
    .ok (.mapping [(.text "logging", .mapping twofoldLogging)]) :=
  rootAt_documentTree (by decide +kernel) (by decide +kernel)

theorem checkMapping_twofold {bytes : List UInt8} {name : String}
    (isText : textOfBytes? bytes = some name) (first last : Value) :
    checkMapping (.mapping [(.text name, first), (.bytes bytes, last)]) =
      .ok [(.text name, last)] := by
  have named : checkKey (.bytes bytes) = .ok name := by rw [checkKey, isText]
  have complaints : keyComplaints [(.bytes bytes, last)] = [] := by
    rw [keyComplaints, named]
    rfl
  have sound : (keyComplaints [(.text name, first), (.bytes bytes, last)]).isEmpty = true :=
    congrArg List.isEmpty complaints
  have settled :
      namedEntries [(.text name, first), (.bytes bytes, last)] = [(.text name, last)] := by
    change nameEntry [(.text name, first)] (.bytes bytes, last) = _
    rw [nameEntry, named]
    exact Entries.set_cons_self name first last []
  rw [checkMapping_of_sound sound, settled]

theorem level_of_twofold :
    ResolverSettings.load (documentTree twofoldText) (some "settings")
        (.ofEnvironment debugEnvironment) = .ok twofoldSettings ∧
      (Overrides.ofEnvironment debugEnvironment).level? = some "debug" ∧
      Entries.get? twofoldSettings.logging "level" = some (.text "warn") := by
  refine ⟨?_, by decide, rfl⟩
  refine (load_eq_ok_iff rootAt_twofold rfl rfl).2 ⟨⟨rfl, rfl, rfl⟩, _, rfl, ?_⟩
  exact checkMapping_twofold (by decide +kernel) (.text "debug") (.text "warn")

end HostResolver.Settings
