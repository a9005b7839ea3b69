import HostResolver.Proofs.Logging.Equipping

/-!
Settings of the system log.

Owns: which settings have no target, and exactly when a configuration leaves the root with every
handler that is asked for and can be had.

Does not own: what a system log does with records.

A system log that cannot be reached is done without. An address of two parts that lacks one, or
whose port is not a whole number, stops the configuration, when the handlers of before are gone
already, and so does a number without a text.
-/

namespace HostResolver.Logging

open HostResolver.Document HostResolver.Files

/-- A setting of the system log has no target. -/
inductive LacksTarget : Value → Prop where
  /-- An address in parts has no host or no port. -/
  | missing {entries : Entries} {parts : List Value}
      (isAddress : entries.get? "address" = some (.list parts)) (short : parts.length < 2) :
      LacksTarget (.mapping entries)
  | unreadable {entries : Entries} {host port : Value} {rest : List Value} {error : SyslogError}
      (isAddress : entries.get? "address" = some (.list (host :: port :: rest)))
      (unread : SyslogTarget.portOf port = .error error) : LacksTarget (.mapping entries)
  | namelessHost {entries : Entries} {host : Value} {rest : List Value}
      (isAddress : entries.get? "address" = some (.list (host :: rest)))
      (unwritable : host.shown? = none) : LacksTarget (.mapping entries)
  | namelessFacility {entries : Entries} {facility : Value}
      (isFacility : entries.get? "facility" = some facility)
      (unwritable : facility.shown? = none) : LacksTarget (.mapping entries)

/-- The system log fails at a target in a way that is not done without. -/
def FailsOtherwise (surroundings : Surroundings) (setting : Value) : Prop :=
  setting.isOn = true ∧ ∃ target failure,
    SyslogTarget.ofValue setting = .ok target ∧ surroundings.connect target = some (.other failure)

namespace SyslogTarget

theorem textOf_of_some {value : Value} {text : String} (shown : value.shown? = some text) :
    textOf value = .ok text := by
  rw [textOf, shown]
  rfl

theorem textOf_of_none {value : Value} (unwritable : value.shown? = none) :
    textOf value = .error .unwritable := by
  rw [textOf, unwritable]
  rfl

theorem ofValue_mapping (entries : Entries) :
    ofValue (.mapping entries) =
      (addressOf ((entries.get? "address").getD localSocket)).bind fun address =>
        (textOf ((entries.get? "facility").getD (.text "USER"))).map fun facility =>
          ⟨address, facilityOf facility⟩ := rfl

theorem addressOf_of_nameless {host : Value} (unwritable : host.shown? = none)
    (rest : List Value) : addressOf (.list (host :: rest)) = .error .unwritable := by
  change Except.bind (textOf host) _ = _
  rw [textOf_of_none unwritable]
  rfl

theorem addressOf_singleton {host : Value} {name : String} (isHost : host.shown? = some name) :
    addressOf (.list [host]) = .error .missingPart := by
  change Except.bind (textOf host) _ = _
  rw [textOf_of_some isHost]
  rfl

theorem addressOf_pair {host : Value} {name : String} (isHost : host.shown? = some name)
    (port : Value) (rest : List Value) :
    addressOf (.list (host :: port :: rest)) = (portOf port).map (.network name) := by
  change Except.bind (textOf host) _ = _
  rw [textOf_of_some isHost]
  rfl

theorem exists_ofValue {setting : Value} (whole : ¬LacksTarget setting) :
    ∃ target, ofValue setting = .ok target := by
  cases setting with
  | mapping entries =>
      have exists_address :
          ∃ found, addressOf ((Entries.get? entries "address").getD localSocket) = .ok found := by
        cases isAddress : Entries.get? entries "address" with
        | none => exact ⟨.direct localSocket, rfl⟩
        | some address =>
            cases address with
            | list parts =>
                match parts with
                | [] => exact absurd (.missing isAddress (by decide)) whole
                | [host] => exact absurd (.missing isAddress (Nat.lt_add_one 1)) whole
                | host :: port :: rest =>
                    cases isHost : host.shown? with
                    | none => exact absurd (.namelessHost isAddress isHost) whole
                    | some name =>
                        cases isPort : portOf port with
                        | error error => exact absurd (.unreadable isAddress isPort) whole
                        | ok number =>
                            refine ⟨.network name number, ?_⟩
                            rw [Option.getD_some, addressOf_pair isHost, isPort]
                            rfl
            | _ => exact ⟨_, rfl⟩
      have exists_facility :
          ∃ name, textOf ((Entries.get? entries "facility").getD (.text "USER")) = .ok name := by
        cases isFacility : Entries.get? entries "facility" with
        | none => exact ⟨"USER", rfl⟩
        | some facility =>
            cases shown : facility.shown? with
            | none => exact absurd (.namelessFacility isFacility shown) whole
            | some name => exact ⟨name, textOf_of_some shown⟩
      obtain ⟨address, isAddress⟩ := exists_address
      obtain ⟨name, isName⟩ := exists_facility
      rw [ofValue_mapping, isAddress, isName]
      exact ⟨_, rfl⟩
  | _ => exact ⟨_, rfl⟩

/-- An address in parts that is none: it is too short, its port is not read, or its host has no
text. -/
theorem exists_error_of_parts {parts : List Value}
    (none : parts.length < 2 ∨
      (∃ host port rest error, parts = host :: port :: rest ∧ portOf port = .error error) ∨
      ∃ host rest, parts = host :: rest ∧ host.shown? = none) :
    ∃ error, addressOf (.list parts) = .error error := by
  match parts with
  | [] => exact ⟨.missingPart, rfl⟩
  | host :: rest =>
      cases isHost : host.shown? with
      | none => exact ⟨.unwritable, addressOf_of_nameless isHost rest⟩
      | some name =>
          rcases none with short | ⟨_, port, others, error, same, unread⟩ | ⟨_, _, same, nameless⟩
          · cases rest with
            | nil => exact ⟨.missingPart, addressOf_singleton isHost⟩
            | cons port others => exact absurd short (Nat.not_lt.2 (Nat.le_add_left 2 _))
          · obtain ⟨rfl, rfl⟩ := List.cons.inj same
            refine ⟨error, ?_⟩
            rw [addressOf_pair isHost, unread]
            rfl
          · rw [(List.cons.inj same).1, nameless] at isHost
            exact nomatch isHost

theorem exists_error_of_address {entries : Entries} {parts : List Value}
    (isAddress : entries.get? "address" = some (.list parts))
    (refused : ∃ error, addressOf (.list parts) = .error error) :
    ∃ error, ofValue (.mapping entries) = .error error := by
  obtain ⟨error, refused⟩ := refused
  rw [ofValue_mapping, isAddress, Option.getD_some, refused]
  exact ⟨error, rfl⟩

theorem exists_error_of_lacksTarget {setting : Value} (lacks : LacksTarget setting) :
    ∃ error, ofValue setting = .error error := by
  cases lacks with
  | missing isAddress short =>
      exact exists_error_of_address isAddress (exists_error_of_parts (Or.inl short))
  | unreadable isAddress unread =>
      exact exists_error_of_address isAddress
        (exists_error_of_parts (Or.inr (Or.inl ⟨_, _, _, _, rfl, unread⟩)))
  | namelessHost isAddress unwritable =>
      exact exists_error_of_address isAddress
        (exists_error_of_parts (Or.inr (Or.inr ⟨_, _, rfl, unwritable⟩)))
  | @namelessFacility entries facility isFacility unwritable =>
      rw [ofValue_mapping, isFacility, Option.getD_some, textOf_of_none unwritable]
      cases addressOf ((Entries.get? entries "address").getD localSocket) with
      | error error => exact ⟨error, rfl⟩
      | ok address => exact ⟨.unwritable, rfl⟩

end SyslogTarget

theorem isOn_of_lacksTarget {setting : Value} (lacks : LacksTarget setting) :
    setting.isOn = true := by
  have nonempty {entries : Entries} {key : String} {value : Value}
      (isValue : entries.get? key = some value) : (Value.mapping entries).isOn = true := by
    cases entries with
    | nil => exact nomatch isValue
    | cons entry rest => rfl
  cases lacks with
  | missing isAddress _ => exact nonempty isAddress
  | unreadable isAddress _ => exact nonempty isAddress
  | namelessHost isAddress _ => exact nonempty isAddress
  | namelessFacility isFacility _ => exact nonempty isFacility

theorem failsOtherwise_iff {surroundings : Surroundings} {setting : Value} {target : SyslogTarget}
    (isOn : setting.isOn = true) (isTarget : SyslogTarget.ofValue setting = .ok target) :
    FailsOtherwise surroundings setting ↔
      ∃ failure, surroundings.connect target = some (.other failure) := by
  constructor
  · rintro ⟨_, other, failure, isOther, failed⟩
    rw [← Except.ok.inj (isTarget.symm.trans isOther)] at failed
    exact ⟨failure, failed⟩
  · rintro ⟨failure, failed⟩
    exact ⟨isOn, target, failure, isTarget, failed⟩

/-- **The handler of the system log is opened or done without, unless its setting has no target or
it fails in a way that is not done without.** -/
theorem Surroundings.exists_openSyslog_iff {surroundings : Surroundings} {setting : Value} :
    (∃ syslog report, surroundings.openSyslog setting = .ok (syslog, report)) ↔
      ¬LacksTarget setting ∧ ¬FailsOtherwise surroundings setting := by
  cases isOn : setting.isOn with
  | false =>
      refine iff_of_true ⟨[], none, openSyslog_of_off isOn⟩ ⟨fun lacks => ?_, fun fails => ?_⟩
      · exact absurd (isOn_of_lacksTarget lacks) (by simp [isOn])
      · exact absurd fails.1 (by simp [isOn])
  | true =>
      rw [openSyslog_of_on isOn]
      by_cases lacks : LacksTarget setting
      · obtain ⟨error, isError⟩ := SyslogTarget.exists_error_of_lacksTarget lacks
        rw [isError]
        exact iff_of_false (fun ⟨_, _, impossible⟩ => nomatch impossible) fun both => both.1 lacks
      obtain ⟨target, isTarget⟩ := SyslogTarget.exists_ofValue lacks
      rw [failsOtherwise_iff isOn isTarget, isTarget]
      simp only
      cases surroundings.connect target with
      | none => exact iff_of_true ⟨_, _, rfl⟩ ⟨lacks, fun ⟨_, impossible⟩ => nomatch impossible⟩
      | some refusal =>
          cases refusal with
          | unreachable words =>
              exact iff_of_true ⟨_, _, rfl⟩ ⟨lacks, fun ⟨_, impossible⟩ => nomatch impossible⟩
          | other failure =>
              exact iff_of_false (fun ⟨_, _, impossible⟩ => nomatch impossible)
                fun both => both.2 ⟨failure, rfl⟩

/-! ## Configuration -/

namespace Configuration

/-- A setting that is off or a mapping asks for a configuration, unless its level has no text. -/
theorem ofValue_cases {setting : Value}
    (isMapping : setting.isOn = false ∨ ∃ entries, setting = .mapping entries) :
    ofValue setting = .error .unwritable ∨
      ∃ configuration, ofValue setting = .ok configuration := by
  have ofEntries_cases (entries : Entries) : ofEntries entries = .error .unwritable ∨
      ∃ configuration, ofEntries entries = .ok configuration := by
    unfold ofEntries
    cases Level.ofValue? ((entries.get? "level").getD (.text "info")) defaultLevel with
    | none => exact Or.inl rfl
    | some level => exact Or.inr ⟨_, rfl⟩
  unfold ofValue
  cases isOn : setting.isOn with
  | false => exact ofEntries_cases []
  | true =>
      obtain ⟨entries, rfl⟩ := isMapping.resolve_left (by simp [isOn])
      exact ofEntries_cases entries

theorem exists_levelled {configuration : Configuration}
    (named : configuration.loggers = .null ∨ ∃ entries, configuration.loggers = .mapping entries) :
    ∃ entries, configuration.levelled = .ok entries := by
  unfold levelled
  rcases named with absent | ⟨entries, isMapping⟩
  · rw [absent]
    exact ⟨[], rfl⟩
  · rw [isMapping]
    cases entries with
    | nil => exact ⟨[], rfl⟩
    | cons entry rest => exact ⟨_, rfl⟩

end Configuration

namespace Loggers

variable {surroundings : Surroundings} {setting : Value} {output : Output}

/-- The root has every handler that a configuration asks for and that can be had, exactly if the
system log allows it and all names and levels of loggers have texts. Without a target for the system
log there is no handler at all; without a text for a logger or a level, all handlers are there. -/
structure KeepsDestinations (surroundings : Surroundings) (configuration : Configuration)
    (configured : Configured) (handlers : List Handler) : Prop where
  iff : configured.failure = none ∧ configured.loggers.handlers = handlers ↔
    ¬LacksTarget configuration.syslog ∧ ¬FailsOtherwise surroundings configuration.syslog ∧
      configuration.levels?.isSome = true
  lacking : LacksTarget configuration.syslog →
    ∃ error, configured.failure = some (.syslog error) ∧ configured.loggers.handlers = []
  unnamed : ¬LacksTarget configuration.syslog → ¬FailsOtherwise surroundings configuration.syslog →
    configured.loggers.handlers = handlers

variable {loggers : Loggers} {configuration : Configuration} {files : FileTree} {place : Place}

theorem keepsDestinations_of_reached {syslog : List Handler} {report : Option Record}
    {entries : Entries} (isConfiguration : Configuration.ofValue setting = .ok configuration)
    (opens : surroundings.Opens configuration.file output.files files place)
    (reached : surroundings.openSyslog configuration.syslog = .ok (syslog, report))
    (isLevelled : configuration.levelled = .ok entries) :
    KeepsDestinations surroundings configuration (loggers.configure surroundings setting output)
      ((surroundings.destinations output.files.workplace configuration).handlers place) := by
  obtain ⟨hasTarget, notFailing⟩ := Surroundings.exists_openSyslog_iff.1 ⟨syslog, report, reached⟩
  cases isNamed : namedLevels configuration.level entries with
  | some levels =>
      have isLevels := Configuration.levels?_eq_some_iff.2 ⟨entries, isLevelled, isNamed⟩
      rw [configure_of_ok isConfiguration opens reached isLevels]
      have equipped := equip_handlers
        ((loggers.clear configuration.level).logIfAny report { output with files := files }).1
        ((surroundings.destinations output.files.workplace configuration).handlers place) levels
      refine ⟨iff_of_true ⟨rfl, equipped⟩ ⟨hasTarget, notFailing, ?_⟩,
        fun lacks => absurd lacks hasTarget, fun _ _ => equipped⟩
      rw [isLevels]
      rfl
  | none =>
      obtain ⟨failed, handlers⟩ :=
        configure_of_unwritable loggers isConfiguration opens reached isLevelled isNamed
      refine ⟨iff_of_false (fun both => ?_) (fun all => ?_), fun lacks => absurd lacks hasTarget,
        fun _ _ => handlers⟩
      · rw [failed] at both
        exact nomatch both.1
      · obtain ⟨levels, isLevels⟩ := Option.isSome_iff_exists.1 all.2.2
        obtain ⟨_, again, named⟩ := Configuration.levels?_eq_some_iff.1 isLevels
        rw [← Except.ok.inj (isLevelled.symm.trans again), isNamed] at named
        exact nomatch named

theorem keepsDestinations_of_unreached {file handlers : List Handler} {error : SetupError}
    (isConfiguration : Configuration.ofValue setting = .ok configuration)
    (opened : surroundings.openFile configuration.file output.files = (.ok file, files))
    (stopped : surroundings.openSyslog configuration.syslog = .error error) :
    KeepsDestinations surroundings configuration (loggers.configure surroundings setting output)
      handlers := by
  have unreached : ¬(¬LacksTarget configuration.syslog ∧
      ¬FailsOtherwise surroundings configuration.syslog) := by
    rw [← Surroundings.exists_openSyslog_iff, stopped]
    exact fun ⟨_, _, impossible⟩ => nomatch impossible
  rw [configure_of_unreached isConfiguration opened stopped]
  refine ⟨iff_of_false (fun both => nomatch both.1) fun all => unreached ⟨all.1, all.2.1⟩,
    fun lacks => ?_, fun hasTarget notFailing => absurd ⟨hasTarget, notFailing⟩ unreached⟩
  obtain ⟨cause, isCause⟩ := SyslogTarget.exists_error_of_lacksTarget lacks
  rw [Surroundings.openSyslog_of_on (isOn_of_lacksTarget lacks), isCause] at stopped
  rw [← Except.error.inj stopped]
  exact ⟨cause, rfl, rfl⟩

/-- **A setting whose file can be opened leaves the root with every handler that is asked for and
can be had, exactly unless the setting of the system log has no target, the system log fails in a
way that is not done without, or a level or the name of a logger has no text.** -/
theorem configure_keepsDestinations_iff (loggers : Loggers) (surroundings : Surroundings)
    (output : Output)
    (isMapping : setting.isOn = false ∨ ∃ entries, setting = .mapping entries) :
    (Configuration.ofValue setting = .error .unwritable ∧
      loggers.configure surroundings setting output = ⟨loggers, output, some .unwritable⟩) ∨
    ∃ configuration, Configuration.ofValue setting = .ok configuration ∧
      ∀ file files, surroundings.openFile configuration.file output.files = (.ok file, files) →
        (configuration.loggers = .null ∨
          ∃ entries, configuration.loggers = .mapping entries) →
        ∃ place, surroundings.Opens configuration.file output.files files place ∧
          KeepsDestinations surroundings configuration
            (loggers.configure surroundings setting output)
            ((surroundings.destinations output.files.workplace configuration).handlers place) := by
  rcases Configuration.ofValue_cases isMapping with unwritable | ⟨configuration, isConfiguration⟩
  · refine Or.inl ⟨unwritable, ?_⟩
    unfold configure
    rw [unwritable]
  refine Or.inr ⟨configuration, isConfiguration, fun file files opened named => ?_⟩
  obtain ⟨entries, isLevelled⟩ := Configuration.exists_levelled named
  obtain ⟨place, opens⟩ := Surroundings.exists_opens opened
  refine ⟨place, opens, ?_⟩
  cases reached : surroundings.openSyslog configuration.syslog with
  | ok handlers => exact keepsDestinations_of_reached isConfiguration opens reached isLevelled
  | error error => exact keepsDestinations_of_unreached isConfiguration opened reached

/-! ### Samples -/

def addressSetting (parts : List Value) : Value :=
  .mapping [(.text "syslog", .mapping [(.text "address", .list parts)])]

def addressConfiguration (parts : List Value) : Configuration :=
  ⟨Level.info, true, none, .mapping [(.text "address", .list parts)], .null⟩

/-- A host, and a port in bytes. -/
def hostParts : List Value := [.text "localhost", .bytes [53, 49, 52]]

theorem ofValue_hostParts :
    SyslogTarget.ofValue (.mapping [(.text "address", .list hostParts)]) =
      .ok ⟨.network "localhost" 514, SyslogTarget.userFacility⟩ := by
  rfl

theorem configure_keepsDestinations_iff_met :
    (∃ entries, addressSetting hostParts = .mapping entries) ∧
      Configuration.ofValue (addressSetting hostParts) = .ok (addressConfiguration hostParts) ∧
      refusing.openFile none FileTree.empty = (.ok [], FileTree.empty) ∧
      ((start none).configure refusing (addressSetting hostParts) (.start .empty)).failure =
        none ∧
      ((start none).configure refusing (addressSetting hostParts)
        (.start .empty)).loggers.handlers = [.console] := by
  have isConfiguration : Configuration.ofValue (addressSetting hostParts) =
      .ok (addressConfiguration hostParts) := rfl
  have opened : refusing.openFile none FileTree.empty = (.ok [], FileTree.empty) := rfl
  have isMapping : (addressSetting hostParts).isOn = false ∨
      ∃ entries, addressSetting hostParts = .mapping entries := Or.inr ⟨_, rfl⟩
  have hasTarget : ¬LacksTarget (addressConfiguration hostParts).syslog := by
    intro lacks
    obtain ⟨error, impossible⟩ := SyslogTarget.exists_error_of_lacksTarget lacks
    exact nomatch ofValue_hostParts.symm.trans impossible
  have notFailing : ¬FailsOtherwise refusing (addressConfiguration hostParts).syslog :=
    fun ⟨_, _, _, _, failed⟩ => nomatch failed
  rcases configure_keepsDestinations_iff (start none) refusing (.start .empty) isMapping with
    ⟨unwritable, _⟩ | ⟨configuration, again, keeps⟩
  · exact nomatch isConfiguration.symm.trans unwritable
  · rw [← Except.ok.inj (isConfiguration.symm.trans again)] at keeps
    obtain ⟨place, _, kept⟩ := keeps [] FileTree.empty opened (Or.inl rfl)
    exact ⟨⟨_, rfl⟩, isConfiguration, opened, kept.iff.2 ⟨hasTarget, notFailing, rfl⟩⟩

theorem configure_noAddress :
    ((start none).configure refusing (addressSetting []) (.start .empty)).failure =
        some (.syslog .missingPart) ∧
      ((start none).configure refusing (addressSetting []) (.start .empty)).loggers.handlers = [] ∧
      ((refusing.destinations [] (addressConfiguration [])).handlers []).length = 1 := by
  have isConfiguration :
      Configuration.ofValue (addressSetting []) = .ok (addressConfiguration []) := rfl
  have stopped : refusing.openSyslog (addressConfiguration []).syslog =
      .error (.syslog .missingPart) := rfl
  have opened : refusing.openFile (addressConfiguration []).file FileTree.empty =
      (.ok [], FileTree.empty) := rfl
  rw [configure_of_unreached isConfiguration opened stopped]
  exact ⟨rfl, rfl, rfl⟩

end Loggers

end HostResolver.Logging
