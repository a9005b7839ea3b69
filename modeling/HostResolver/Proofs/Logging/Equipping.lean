import HostResolver.Logging.Setup
import HostResolver.Proofs.Files.Writing

/-!
Handlers of the root logger.

Owns: where a configuration wants records to go, and what becomes of the loggers when it is put into
effect or cannot be.

Does not own: the levels of named loggers, and the delivery of records.
-/

namespace HostResolver.Logging

open HostResolver.Document HostResolver.Files

/-! ## Destinations -/

/-- Where records go. -/
structure Destinations where
  console : Bool
  file : Option Path
  syslog : Option SyslogTarget

/-- The handlers for destinations, where the path of the log file leads to a place. -/
def Destinations.handlers (destinations : Destinations) (place : Place) : List Handler :=
  (if destinations.console then [.console] else []) ++
    (destinations.file.map fun path => Handler.file path place).toList ++
    (destinations.syslog.map Handler.syslog).toList

def Destinations.none : Destinations := ⟨false, .none, .none⟩

/-- The log file of the destinations is where its path leads. -/
def Destinations.LeadTo (destinations : Destinations) (files : FileTree) (place : Place) : Prop :=
  ∀ path, destinations.file = some path → files.LeadsToLog path.text place

namespace Surroundings

variable (surroundings : Surroundings)

/-- The path of a log file, seen from a working directory. -/
def fileOf (workplace : Place) (file : Option String) : Option Path :=
  file.map (surroundings.pathOf workplace)

/-- The system log of a setting, if one is asked for and can be had. -/
def syslogOf (setting : Value) : Option SyslogTarget :=
  if setting.isOn then
    match SyslogTarget.ofValue setting with
    | .error _ => none
    | .ok target => if (surroundings.connect target).isNone then some target else none
  else none

def destinations (workplace : Place) (configuration : Configuration) : Destinations where
  console := configuration.console
  file := surroundings.fileOf workplace configuration.file
  syslog := surroundings.syslogOf configuration.syslog

/-- The file that a configuration asks for is opened, and its path leads to it. -/
structure Opens (file : Option String) (before after : FileTree) (place : Place) : Prop where
  opened : surroundings.openFile file before =
    (.ok ((surroundings.fileOf before.workplace file).map fun path =>
      Handler.file path place).toList, after)
  leads : ∀ path, surroundings.fileOf before.workplace file = some path →
    after.LeadsToLog path.text place
  workplace : after.workplace = before.workplace

variable {surroundings}

theorem exists_opens {file : Option String} {before after : FileTree} {handlers : List Handler}
    (opened : surroundings.openFile file before = (.ok handlers, after)) :
    ∃ place, surroundings.Opens file before after place := by
  cases file with
  | none =>
      obtain ⟨_, rfl⟩ := Prod.mk.inj opened
      exact ⟨[], rfl, nofun, rfl⟩
  | some text =>
      have whole := opened
      rw [openFile] at opened
      split at opened
      · simp at opened
      · simp only at opened
        cases led : before.openLogFile (surroundings.pathOf before.workplace text) with
        | mk outcome later =>
            cases outcome with
            | error refusal => simp [led] at opened
            | ok place =>
                simp only [led, Prod.mk.injEq, Except.ok.injEq] at opened
                obtain ⟨rfl, rfl⟩ := opened
                obtain ⟨leads, sameStart⟩ := FileTree.leadsToLog_of_openLogFile led
                refine ⟨place, whole, fun path isPath => ?_, sameStart⟩
                rw [← Option.some.inj isPath]
                exact leads

theorem openSyslog_of_off {setting : Value} (off : setting.isOn = false) :
    surroundings.openSyslog setting = .ok ([], none) := by
  unfold openSyslog
  rw [off]
  rfl

theorem openSyslog_of_on {setting : Value} (isOn : setting.isOn = true) :
    surroundings.openSyslog setting =
      match SyslogTarget.ofValue setting with
      | .error error => .error (.syslog error)
      | .ok target =>
        match surroundings.connect target with
        | none => .ok ([.syslog target], none)
        | some (.unreachable words) => .ok ([], some (unreachable words))
        | some (.other failure) => .error (.connect failure) := by
  unfold openSyslog
  rw [isOn]
  rfl

theorem openSyslog_handlers {setting : Value} {handlers : List Handler} {report : Option Record}
    (reached : surroundings.openSyslog setting = .ok (handlers, report)) :
    handlers = ((surroundings.syslogOf setting).map Handler.syslog).toList := by
  unfold syslogOf
  cases isOn : setting.isOn with
  | false =>
      rw [openSyslog_of_off isOn] at reached
      exact (Prod.mk.inj (Except.ok.inj reached)).1.symm
  | true =>
      rw [openSyslog_of_on isOn] at reached
      rw [if_pos rfl]
      cases isTarget : SyslogTarget.ofValue setting with
      | error error =>
          rw [isTarget] at reached
          exact nomatch reached
      | ok target =>
          rw [isTarget] at reached
          simp only at reached ⊢
          cases connected : surroundings.connect target with
          | none =>
              rw [connected] at reached
              exact (Prod.mk.inj (Except.ok.inj reached)).1.symm
          | some failure =>
              rw [connected] at reached
              cases failure with
              | unreachable words => exact (Prod.mk.inj (Except.ok.inj reached)).1.symm
              | other failure => exact nomatch reached

end Surroundings

/-- No home directories, and a system log that never answers. -/
def refusing : Surroundings := ⟨fun _ => none, fun _ => some (.unreachable "refused")⟩

/-! ## Levels of named loggers -/

/-- The logger and the level that an entry names; none if one of them has no text. -/
def namedLevel (root : Level) (entry : Value × Value) : Option (String × Level) :=
  entry.1.shown?.bind fun name =>
    (Level.ofValue? entry.2 root).map fun level => (name, level)

/-- The levels that entries give to loggers; none if a name or a level has no text. -/
def namedLevels (root : Level) (entries : Entries) : Option (List (String × Level)) :=
  entries.mapM (namedLevel root)

/-- The levels that a configuration gives to loggers by name, if it can be put into effect. -/
def Configuration.levels? (configuration : Configuration) : Option (List (String × Level)) :=
  configuration.levelled.toOption.bind (namedLevels configuration.level)

theorem namedLevels_cons (root : Level) (entry : Value × Value) (entries : Entries) :
    namedLevels root (entry :: entries) =
      (namedLevel root entry).bind fun first =>
        (namedLevels root entries).map (first :: ·) := by
  unfold namedLevels
  rw [List.mapM_cons]
  simp only [Option.bind_eq_bind, Option.pure_def, Option.map_eq_bind, Function.comp_def]

theorem Configuration.levels?_eq_some_iff {configuration : Configuration}
    {levels : List (String × Level)} :
    configuration.levels? = some levels ↔ ∃ entries, configuration.levelled = .ok entries ∧
      namedLevels configuration.level entries = some levels := by
  unfold levels?
  cases configuration.levelled with
  | error error => exact iff_of_false nofun fun ⟨_, impossible, _⟩ => nomatch impossible
  | ok entries =>
      exact ⟨fun isNamed => ⟨entries, rfl, isNamed⟩, fun ⟨_, same, isNamed⟩ =>
        Except.ok.inj same ▸ isNamed⟩

/-! ## Configuration -/

namespace Loggers

variable {loggers : Loggers} {surroundings : Surroundings} {setting : Value} {output : Output}
  {configuration : Configuration} {syslog : List Handler} {files : FileTree} {place : Place}
  {report : Option Record} {levels : List (String × Level)}

/-- The loggers without handlers, the root at a new level. -/
def clear (loggers : Loggers) (level : Level) : Loggers :=
  { loggers.setLevel rootName level with handlers := [] }

def logIfAny (loggers : Loggers) (record : Option Record) (output : Output) : Loggers × Output :=
  match record with
  | none => (loggers, output)
  | some record => loggers.log record output

/-- The loggers with levels of their own. -/
def assign (loggers : Loggers) (levels : List (String × Level)) : Loggers :=
  levels.foldl (fun loggers entry => loggers.setLevel entry.1 entry.2) loggers

/-- The loggers with handlers and levels of their own. -/
def equip (loggers : Loggers) (handlers : List Handler) (levels : List (String × Level)) :
    Loggers :=
  { ({ loggers with handlers := handlers } : Loggers).assign levels with
    capturesWarnings := true }

/-! ### What leaves the handlers alone -/

theorem know_handlers (loggers : Loggers) (name : String) :
    (loggers.know name).handlers = loggers.handlers := by
  unfold know
  split <;> rfl

theorem setLevel_handlers (loggers : Loggers) (name : String) (level : Level) :
    (loggers.setLevel name level).handlers = loggers.handlers := by
  unfold setLevel
  split
  · rfl
  · exact know_handlers loggers name

theorem assign_handlers (loggers : Loggers) (levels : List (String × Level)) :
    (loggers.assign levels).handlers = loggers.handlers := by
  unfold assign
  induction levels generalizing loggers with
  | nil => rfl
  | cons entry rest inductionHypothesis =>
      rw [List.foldl_cons, inductionHypothesis, setLevel_handlers]

theorem decideOn_handlers (loggers : Loggers) (name : String) (level : Level) :
    (loggers.decideOn name level).handlers = loggers.handlers := know_handlers loggers name

theorem log_loggers (loggers : Loggers) (record : Record) (output : Output) :
    (loggers.log record output).1 = loggers.decideOn record.logger record.level := by
  unfold log
  simp only
  split <;> rfl

theorem equip_handlers (loggers : Loggers) (handlers : List Handler)
    (levels : List (String × Level)) : (loggers.equip handlers levels).handlers = handlers :=
  assign_handlers _ levels

/-! ### Setting levels -/

/-- The levels of named loggers are set in turn, if all names and levels have texts. -/
theorem setLevels_of_named {root : Level} {entries : Entries}
    (isLevels : namedLevels root entries = some levels) :
    loggers.setLevels root entries = (loggers.assign levels, none) := by
  induction entries generalizing loggers levels with
  | nil =>
      rw [← Option.some.inj isLevels]
      rfl
  | cons entry rest inductionHypothesis =>
      rw [namedLevels_cons] at isLevels
      obtain ⟨first, isFirst, isLevels⟩ := Option.bind_eq_some_iff.1 isLevels
      obtain ⟨others, isOthers, rfl⟩ := Option.map_eq_some_iff.1 isLevels
      obtain ⟨name, isName, isFirst⟩ := Option.bind_eq_some_iff.1 isFirst
      obtain ⟨level, isLevel, rfl⟩ := Option.map_eq_some_iff.1 isFirst
      rw [setLevels, isName]
      simp only [isLevel]
      exact inductionHypothesis isOthers

/-- A name or a level without a text is met when the handlers are in place. -/
theorem setLevels_of_unnamed (loggers : Loggers) {root : Level} {entries : Entries}
    (unnamed : namedLevels root entries = none) :
    ∃ later : Loggers, loggers.setLevels root entries = (later, some .unwritable) ∧
      later.handlers = loggers.handlers := by
  induction entries generalizing loggers with
  | nil => exact nomatch unnamed
  | cons entry rest inductionHypothesis =>
      rw [setLevels]
      cases isName : entry.1.shown? with
      | none => exact ⟨loggers, rfl, rfl⟩
      | some name =>
          cases isLevel : Level.ofValue? entry.2 root with
          | none => exact ⟨loggers.know name, rfl, know_handlers loggers name⟩
          | some level =>
              have isFirst : namedLevel root entry = some (name, level) := by
                rw [namedLevel, isName, Option.bind_some, isLevel, Option.map_some]
              rw [namedLevels_cons, isFirst, Option.bind_some, Option.map_eq_none_iff] at unnamed
              simp only
              rw [← setLevel_handlers loggers name level]
              exact inductionHypothesis _ unnamed

/-! ### Putting into effect -/

theorem openHandlers_of_ok (loggers : Loggers)
    (opens : surroundings.Opens configuration.file output.files files place)
    (reached : surroundings.openSyslog configuration.syslog = .ok (syslog, report)) :
    loggers.openHandlers surroundings configuration output =
      (.ok ((surroundings.destinations output.files.workplace configuration).handlers place),
        loggers.logIfAny report { output with files := files }) := by
  have isSyslog := Surroundings.openSyslog_handlers reached
  unfold openHandlers
  simp only [opens.opened, reached]
  rw [isSyslog]
  cases report <;> rfl

/-- What a configuration does to the loggers when it is put into effect. -/
theorem configure_of_ok (isConfiguration : Configuration.ofValue setting = .ok configuration)
    (opens : surroundings.Opens configuration.file output.files files place)
    (reached : surroundings.openSyslog configuration.syslog = .ok (syslog, report))
    (isLevels : configuration.levels? = some levels) :
    loggers.configure surroundings setting output =
      ⟨equip ((loggers.clear configuration.level).logIfAny report
          { output with files := files }).1
        ((surroundings.destinations output.files.workplace configuration).handlers place) levels,
        ((loggers.clear configuration.level).logIfAny report { output with files := files }).2,
        none⟩ := by
  have handled := openHandlers_of_ok (loggers.clear configuration.level) opens reached
  obtain ⟨entries, isLevelled, isNamed⟩ := Configuration.levels?_eq_some_iff.1 isLevels
  unfold clear at handled
  unfold configure
  simp only [isConfiguration, handled, isLevelled, setLevels_of_named isNamed]
  rfl

/-- Where a named logger or its level has no text, the handlers are in place nevertheless. -/
theorem configure_of_unwritable (loggers : Loggers) {entries : Entries}
    (isConfiguration : Configuration.ofValue setting = .ok configuration)
    (opens : surroundings.Opens configuration.file output.files files place)
    (reached : surroundings.openSyslog configuration.syslog = .ok (syslog, report))
    (isLevelled : configuration.levelled = .ok entries)
    (unnamed : namedLevels configuration.level entries = none) :
    (loggers.configure surroundings setting output).failure = some .unwritable ∧
      (loggers.configure surroundings setting output).loggers.handlers =
        (surroundings.destinations output.files.workplace configuration).handlers place := by
  have handled := openHandlers_of_ok (loggers.clear configuration.level) opens reached
  obtain ⟨later, isSet, sameHandlers⟩ := setLevels_of_unnamed
    { ((loggers.clear configuration.level).logIfAny report { output with files := files }).1 with
      handlers :=
        (surroundings.destinations output.files.workplace configuration).handlers place }
    unnamed
  unfold clear at handled isSet
  unfold configure
  simp only [isConfiguration, handled, isLevelled, isSet, true_and]
  exact sameHandlers

theorem configure_of_unreached {error : SetupError} {file : List Handler}
    (isConfiguration : Configuration.ofValue setting = .ok configuration)
    (opened : surroundings.openFile configuration.file output.files = (.ok file, files))
    (stopped : surroundings.openSyslog configuration.syslog = .error error) :
    loggers.configure surroundings setting output =
      ⟨loggers.clear configuration.level, { output with files := files }, some error⟩ := by
  unfold configure openHandlers
  simp only [isConfiguration, opened, stopped]
  rfl

/-- A configuration that does not fail has been put into effect to the end. -/
theorem exists_of_failure_eq_none
    (succeeded : (loggers.configure surroundings setting output).failure = none) :
    ∃ configuration files place syslog report levels,
      Configuration.ofValue setting = .ok configuration ∧
      surroundings.Opens configuration.file output.files files place ∧
      surroundings.openSyslog configuration.syslog = .ok (syslog, report) ∧
      configuration.levels? = some levels := by
  cases isConfiguration : Configuration.ofValue setting with
  | error error =>
      simp only [configure, isConfiguration, reduceCtorEq] at succeeded
  | ok configuration =>
      cases opened : surroundings.openFile configuration.file output.files with
      | mk outcome files =>
          cases outcome with
          | error error =>
              simp only [configure, openHandlers, isConfiguration, opened,
                reduceCtorEq] at succeeded
          | ok file =>
              obtain ⟨place, opens⟩ := Surroundings.exists_opens opened
              cases reached : surroundings.openSyslog configuration.syslog with
              | error error =>
                  rw [configure_of_unreached isConfiguration opened reached] at succeeded
                  exact nomatch succeeded
              | ok handlers =>
                  obtain ⟨syslog, report⟩ := handlers
                  cases isLevelled : configuration.levelled with
                  | error error =>
                      simp only [configure, isConfiguration, openHandlers_of_ok _ opens reached,
                        isLevelled, reduceCtorEq] at succeeded
                  | ok entries =>
                      cases isNamed : namedLevels configuration.level entries with
                      | none =>
                          rw [(configure_of_unwritable loggers isConfiguration opens reached
                            isLevelled isNamed).1] at succeeded
                          exact nomatch succeeded
                      | some levels =>
                          exact ⟨configuration, files, place, syslog, report, levels, rfl, opens,
                            reached, Configuration.levels?_eq_some_iff.2
                              ⟨entries, isLevelled, isNamed⟩⟩

end Loggers

end HostResolver.Logging
