import HostResolver.Logging.Loggers

/-!
Configuration of the loggers.

This module owns what a configuration of logging asks for and how it is put into effect: the
handlers of before go, the root takes the level that is asked for, the new handlers come, and then
named loggers take levels of their own. Where a handler cannot be had, the root is left without any,
except that a system log that cannot be reached is reported and done without. A level or the name of
a logger may have no text; what was done before that shows is not undone.
-/

namespace HostResolver.Logging

open HostResolver.Document HostResolver.Files HostResolver.Text HostResolver.Time

/-- Why the system log is not there. -/
inductive ConnectFailure where
  /-- It cannot be reached at its address. -/
  | unreachable (words : String)
  | other (failure : Failure)
deriving DecidableEq, Repr

/-- Why a configuration cannot be put into effect. -/
inductive SetupError where
  | notMapping
  /-- The levels of loggers are no mapping. -/
  | loggersNotMapping
  /-- A level or the name of a logger has no text. -/
  | unwritable
  /-- The log file cannot be opened, since something is wrong at a path. -/
  | file (refusal : PathError)
  /-- The address of the system log is none. -/
  | syslog (error : SyslogError)
  /-- The system log failed in a way that is not done without. -/
  | connect (failure : Failure)
deriving DecidableEq, Repr

/-- The words for a configuration that cannot be put into effect; none where the kinds of its values
do not fit. -/
def SetupError.message? : SetupError → Option String
  | .notMapping | .loggersNotMapping => none
  | .unwritable => some Text.unwritable
  | .file refusal => some refusal.message
  | .syslog error => error.message?
  | .connect failure => some failure.text

/-! ## What is asked for -/

/-- What a configuration asks for. -/
structure Configuration where
  level : Level
  console : Bool
  /-- The log file, a text that is not blank. -/
  file : Option String
  /-- The setting of the system log; off if there is to be none. -/
  syslog : Value
  /-- The levels of loggers by name; off if there are none. -/
  loggers : Value

namespace Configuration

/-- The level that is used by default. -/
def defaultLevel : Level := Level.info

/-- The log file that a value names. -/
def fileOf? : Value → Option String
  | .text text => if (trimmed text).isEmpty then none else some (trimmed text)
  | _ => none

def ofEntries (entries : Entries) : Except SetupError Configuration :=
  match Level.ofValue? ((entries.get? "level").getD (.text "info")) defaultLevel with
  | none => .error .unwritable
  | some level =>
    .ok
      { level := level
        console := (entries.get? "stderr").all Value.isOn
        file := (entries.get? "file").bind fileOf?
        syslog := (entries.get? "syslog").getD .null
        loggers := (entries.get? "loggers").getD .null }

/-- The configuration that a value asks for. A value that is off asks for nothing in particular. -/
def ofValue (value : Value) : Except SetupError Configuration :=
  if !value.isOn then ofEntries []
  else
    match value with
    | .mapping entries => ofEntries entries
    | _ => .error .notMapping

/-- The loggers that are to take levels of their own, in order. -/
def levelled (configuration : Configuration) : Except SetupError Entries :=
  if !configuration.loggers.isOn then .ok []
  else
    match configuration.loggers with
    | .mapping entries => .ok entries
    | _ => .error .loggersNotMapping

end Configuration

/-! ## Handlers -/

/-- What handlers need to know of their surroundings. -/
structure Surroundings where
  homes : Homes
  /-- Tries to reach a system log. -/
  connect : SyslogTarget → Option ConnectFailure

namespace Surroundings

/-- The path of a log file, seen from a working directory. -/
def pathOf (surroundings : Surroundings) (workplace : Place) (text : String) : Path :=
  FileTree.absolutePath workplace (expandHome surroundings.homes text)

/-- The file handler that is asked for, if one is, and the files then. A user whose name holds a NUL
character cannot be looked up. -/
def openFile (surroundings : Surroundings) (file : Option String) (files : FileTree) :
    Except SetupError (List Handler) × FileTree :=
  match file with
  | none => (.ok [], files)
  | some text =>
    if (homeOwner? text).any fun user => user.contains (Char.ofNat 0) then
      (.error (.file ⟨text, .nulCharacter⟩), files)
    else
      let path := surroundings.pathOf files.workplace text
      match files.openLogFile path with
      | (.error refusal, later) => (.error (.file refusal), later)
      | (.ok place, later) => (.ok [.file path place], later)

/-- The record of a system log that cannot be reached. -/
def unreachable (words : String) : Record where
  logger := "unixresolver.config.logging_config"
  level := Level.warning
  writable := by decide
  template := "Failed to configure syslog: %s"
  arguments := [.text words]
  created := .whole 0
  failure := none
  stack := none

/-- The handler of the system log that is asked for, if one is and can be reached, and the record of
one that cannot. -/
def openSyslog (surroundings : Surroundings) (setting : Value) :
    Except SetupError (List Handler × Option Record) :=
  if !setting.isOn then .ok ([], none)
  else
    match SyslogTarget.ofValue setting with
    | .error error => .error (.syslog error)
    | .ok target =>
      match surroundings.connect target with
      | none => .ok ([.syslog target], none)
      | some (.unreachable words) => .ok ([], some (unreachable words))
      | some (.other failure) => .error (.connect failure)

end Surroundings

/-! ## Putting into effect -/

/-- What comes of a configuration: the loggers, what is written, and what went wrong. -/
structure Configured where
  loggers : Loggers
  output : Output
  failure : Option SetupError

namespace Loggers

/-- Opens the handlers that a configuration asks for. A system log that cannot be reached is
reported to the loggers as they are now. -/
def openHandlers (loggers : Loggers) (surroundings : Surroundings) (configuration : Configuration)
    (output : Output) : Except SetupError (List Handler) × Loggers × Output :=
  let console : List Handler := if configuration.console then [.console] else []
  match surroundings.openFile configuration.file output.files with
  | (.error error, files) => (.error error, loggers, { output with files := files })
  | (.ok file, files) =>
    let output := { output with files := files }
    match surroundings.openSyslog configuration.syslog with
    | .error error => (.error error, loggers, output)
    | .ok (syslog, report) =>
      let handlers := console ++ file ++ syslog
      match report with
      | none => (.ok handlers, loggers, output)
      | some record => (.ok handlers, loggers.log record output)

/-- Sets the levels of loggers by name in turn. A name of no level stands for that of the root. -/
def setLevels (loggers : Loggers) (root : Level) : Entries → Loggers × Option SetupError
  | [] => (loggers, none)
  | (key, value) :: entries =>
    match key.shown? with
    | none => (loggers, some .unwritable)
    | some name =>
      match Level.ofValue? value root with
      | none => (loggers.know name, some .unwritable)
      | some level => setLevels (loggers.setLevel name level) root entries

def configure (loggers : Loggers) (surroundings : Surroundings) (setting : Value)
    (output : Output) : Configured :=
  match Configuration.ofValue setting with
  | .error error => ⟨loggers, output, some error⟩
  | .ok configuration =>
    let cleared := { loggers.setLevel rootName configuration.level with handlers := [] }
    match cleared.openHandlers surroundings configuration output with
    | (.error error, cleared, output) => ⟨cleared, output, some error⟩
    | (.ok handlers, cleared, output) =>
      let equipped := { cleared with handlers := handlers }
      match configuration.levelled with
      | .error error => ⟨equipped, output, some error⟩
      | .ok entries =>
        match equipped.setLevels configuration.level entries with
        | (levelled, some error) => ⟨levelled, output, some error⟩
        | (levelled, none) => ⟨{ levelled with capturesWarnings := true }, output, none⟩

end Loggers

end HostResolver.Logging
