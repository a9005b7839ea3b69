import HostResolver.Logging.Setup
import HostResolver.Provider.Bootstrap
import HostResolver.Settings.Source

/-!
Start of a program.

This module owns the start that programs use: settings are loaded, the loggers are configured if the
settings say how, and then a provider is started, whose events are logged. Settings that are
refused, a configuration of the loggers that cannot be put into effect and a path whose home
directory cannot be looked up stop the start; whatever is wrong with the files of the provider does
not.
-/

namespace HostResolver.Provider

open HostResolver.Config HostResolver.Document HostResolver.Files HostResolver.Logging
  HostResolver.Servers HostResolver.Settings HostResolver.Time

/-- What a program is started with. -/
structure ProgramInputs where
  /-- The settings file, if there is one. -/
  settingsPath : Option String
  /-- What the environment says about the settings. -/
  overrides : Overrides
  /-- The options that the environment sets. -/
  environmentOptions : Option String
  /-- Whether the loggers are to be configured. -/
  configuresLogging : Bool
  /-- The time that records are stamped with. -/
  now : Stamp
  /-- How records that cannot be laid out are reported. -/
  tracing : Tracing

/-- Why a program does not start. -/
inductive ProgramError where
  | settings (error : SettingsError)
  | logging (error : SetupError)
  /-- The home directory that a path of the settings asks for cannot be looked up. -/
  | home (error : PathError)

/-- What comes of a start. -/
structure ProgramStart where
  started : Except ProgramError Started
  loggers : Loggers
  output : Output

theorem isWritable_level (event : Event) : Text.isWritable event.level = true := by
  have levels : event.level = 20 ∨ event.level = 10 := by
    cases event with
    | unsupported line => exact Or.inl rfl
    | _ => exact Or.inr rfl
  rcases levels with same | same
  all_goals
    rw [same]
    decide

def eventRecord (now : Stamp) (event : Event) : Record where
  logger := event.logger
  level := event.level
  writable := isWritable_level event
  template := event.message
  arguments := []
  created := now
  failure := event.failure?.map fun error => ⟨error.kind, error.message⟩
  stack := none

def logEvents (now : Stamp) (events : List Event) (logged : Loggers × Output) :
    Loggers × Output :=
  events.foldl (fun logged event => logged.1.log (eventRecord now event) logged.2) logged

def configureLogging (loggers : Loggers) (surroundings : Surroundings) (inputs : ProgramInputs)
    (settings : ResolverSettings) (output : Output) : Configured :=
  if inputs.configuresLogging && !settings.logging.isEmpty then
    loggers.configure surroundings (.mapping settings.logging) output
  else ⟨loggers, output, none⟩

def startProgram (tree : FileTree) (surroundings : Surroundings) (inputs : ProgramInputs)
    (shuffles : Nat → Shuffle) : ProgramStart :=
  let output := Output.start tree
  match ResolverSettings.load tree inputs.settingsPath inputs.overrides with
  | .error error => ⟨.error (.settings error), .start inputs.tracing, output⟩
  | .ok settings =>
    let configured := configureLogging (.start inputs.tracing) surroundings inputs settings output
    match configured.failure with
    | some error => ⟨.error (.logging error), configured.loggers, configured.output⟩
    | none =>
      match startFromSettings configured.output.files surroundings.homes settings
        inputs.environmentOptions shuffles with
      | .error error => ⟨.error (.home error), configured.loggers, configured.output⟩
      | .ok started =>
        let logged := logEvents inputs.now started.2 (configured.loggers, configured.output)
        ⟨.ok started.1, logged.1, logged.2⟩

end HostResolver.Provider
