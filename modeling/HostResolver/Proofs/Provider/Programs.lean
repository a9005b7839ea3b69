import HostResolver.Provider.Program
import HostResolver.Proofs.Logging.Runs
import HostResolver.Proofs.Provider.FromSettings

/-!
The start of a program.

Owns: for which causes a program does not start, and what a program that has started leaves behind:
the provider that the files of its settings name, and the loggers behind a run of one configuration
at most and of the records of what happened.

Does not own: which settings are loaded, and what the files say.
-/

namespace HostResolver.Provider

open HostResolver.Config HostResolver.Document HostResolver.Files HostResolver.Logging
  HostResolver.Servers HostResolver.Settings

variable {tree : FileTree} {surroundings : Surroundings} {inputs : ProgramInputs}
  {settings : ResolverSettings} {shuffles : Nat → Shuffle}

/-! ## Logging -/

/-- The loggers of a start, configured if the settings say how. -/
def setup (tree : FileTree) (surroundings : Surroundings) (inputs : ProgramInputs)
    (settings : ResolverSettings) : Configured :=
  configureLogging (.start inputs.tracing) surroundings inputs settings (.start tree)

/-- The configuration of the loggers in a start, if there is one. -/
def setupCalls (surroundings : Surroundings) (inputs : ProgramInputs)
    (settings : ResolverSettings) : List Call :=
  if inputs.configuresLogging && !settings.logging.isEmpty then
    [.configure surroundings (.mapping settings.logging)]
  else []

/-- The records of what happened in a start. -/
def eventCalls (inputs : ProgramInputs) (events : List Event) : List Call :=
  events.map fun event => .log (eventRecord inputs.now event)

theorem runAll_setupCalls (succeeded : (setup tree surroundings inputs settings).failure = none) :
    runAll (setupCalls surroundings inputs settings) (.start inputs.tracing, .start tree) =
      .ok ((setup tree surroundings inputs settings).loggers,
        (setup tree surroundings inputs settings).output) := by
  unfold setup configureLogging setupCalls at *
  split
  · next configures =>
      rw [if_pos configures] at succeeded
      change (Call.run (.configure surroundings (.mapping settings.logging)) _).bind _ = _
      unfold Call.run
      simp only [succeeded]
      rfl
  · rfl

/-- Events are logged as the calls of a run. -/
theorem runAll_eventCalls (inputs : ProgramInputs) (events : List Event)
    (state : Loggers × Output) :
    runAll (eventCalls inputs events) state = .ok (logEvents inputs.now events state) := by
  unfold eventCalls logEvents
  induction events generalizing state with
  | nil => rfl
  | cons event rest inductionHypothesis =>
      rw [List.map_cons, List.foldl_cons, ← inductionHypothesis]
      rfl

theorem runAll_append (front behind : List Call) (state : Loggers × Output) :
    runAll (front ++ behind) state = (runAll front state).bind (runAll behind) :=
  List.foldlM_append

/-- Loggers that are configured without a log file leave the files alone. -/
theorem setup_files (succeeded : (setup tree surroundings inputs settings).failure = none)
    (noFile : (asked tree.workplace (setupCalls surroundings inputs settings)).file = none) :
    (setup tree surroundings inputs settings).output.files = tree := by
  unfold setup configureLogging setupCalls at *
  split at noFile
  · next configures =>
      rw [if_pos configures] at succeeded ⊢
      obtain ⟨configuration, files, place, syslog, report, levels, isConfiguration, opens, reached,
        isLevels⟩ := Loggers.exists_of_failure_eq_none succeeded
      have noPath : surroundings.fileOf tree.workplace configuration.file = none := by
        have isAsked : asked tree.workplace
            [.configure surroundings (.mapping settings.logging)] =
              surroundings.destinations tree.workplace configuration := by
          unfold asked
          rw [List.reverse_singleton, List.findSome?_singleton, Call.destinations?,
            isConfiguration]
          rfl
        rw [isAsked] at noFile
        exact noFile
      have notAsked : configuration.file = none := Option.map_eq_none_iff.1 noPath
      have opened := opens.opened
      rw [notAsked] at opened
      rw [Loggers.configure_of_ok isConfiguration opens reached isLevels]
      exact (logIfAny_files rfl report _).trans (Prod.mk.inj opened).2.symm
  · next notConfigured =>
      rw [if_neg notConfigured]
      rfl

/-! ## Outcomes -/

/-- What the start of a program comes to, with its cause. -/
inductive ProgramOutcome (tree : FileTree) (surroundings : Surroundings) (inputs : ProgramInputs)
    (shuffles : Nat → Shuffle) : ProgramStart → Prop where
  /-- Nothing is written where there are no settings. -/
  | unsettled {error : SettingsError}
      (refused : ResolverSettings.load tree inputs.settingsPath inputs.overrides = .error error) :
      ProgramOutcome tree surroundings inputs shuffles
        ⟨.error (.settings error), .start inputs.tracing, .start tree⟩
  | unlogged {settings : ResolverSettings} {error : SetupError}
      (loaded : ResolverSettings.load tree inputs.settingsPath inputs.overrides = .ok settings)
      (failed : (setup tree surroundings inputs settings).failure = some error) :
      ProgramOutcome tree surroundings inputs shuffles
        ⟨.error (.logging error), (setup tree surroundings inputs settings).loggers,
          (setup tree surroundings inputs settings).output⟩
  | homeless {settings : ResolverSettings} {error : PathError}
      (loaded : ResolverSettings.load tree inputs.settingsPath inputs.overrides = .ok settings)
      (succeeded : (setup tree surroundings inputs settings).failure = none)
      (asks : AsksForNulUser settings.resolvConf ∨ AsksForNulUser settings.resolverDir) :
      ProgramOutcome tree surroundings inputs shuffles
        ⟨.error (.home error), (setup tree surroundings inputs settings).loggers,
          (setup tree surroundings inputs settings).output⟩
  | started {settings : ResolverSettings} {started : Started} {events : List Event}
      {loggers : Loggers} {written : Output}
      (loaded : ResolverSettings.load tree inputs.settingsPath inputs.overrides = .ok settings)
      (succeeded : (setup tree surroundings inputs settings).failure = none)
      (asksNot : ¬(AsksForNulUser settings.resolvConf ∨ AsksForNulUser settings.resolverDir))
      (isStarted : startFromSettings (setup tree surroundings inputs settings).output.files
        surroundings.homes settings inputs.environmentOptions shuffles = .ok (started, events))
      (logged : runAll (setupCalls surroundings inputs settings ++ eventCalls inputs events)
        (.start inputs.tracing, .start tree) = .ok (loggers, written)) :
      ProgramOutcome tree surroundings inputs shuffles ⟨.ok started, loggers, written⟩

theorem isNormal_of_load {path : Option String} {overrides : Overrides}
    (loaded : ResolverSettings.load tree path overrides = .ok settings) : IsNormal settings :=
  IsAccepted.isNormal (Or.inr ⟨tree, path, overrides, loaded⟩)

theorem programOutcome (tree : FileTree) (surroundings : Surroundings) (inputs : ProgramInputs)
    (shuffles : Nat → Shuffle) :
    ProgramOutcome tree surroundings inputs shuffles
      (startProgram tree surroundings inputs shuffles) := by
  unfold startProgram
  cases loaded : ResolverSettings.load tree inputs.settingsPath inputs.overrides with
  | error error => exact .unsettled loaded
  | ok settings =>
      have isSetup : configureLogging (.start inputs.tracing) surroundings inputs settings
        (.start tree) = setup tree surroundings inputs settings := rfl
      cases failed : (setup tree surroundings inputs settings).failure with
      | some error =>
          simp only [isSetup, failed]
          exact .unlogged loaded failed
      | none =>
          simp only [isSetup, failed]
          have normal := isNormal_of_load loaded
          have fails := startFromSettings_error_iff normal
            (setup tree surroundings inputs settings).output.files surroundings.homes
            inputs.environmentOptions shuffles
          cases isStarted : startFromSettings (setup tree surroundings inputs settings).output.files
              surroundings.homes settings inputs.environmentOptions shuffles with
          | error error => exact .homeless loaded failed (fails.1 ⟨error, isStarted⟩)
          | ok result =>
              have asksNot : ¬(AsksForNulUser settings.resolvConf ∨
                  AsksForNulUser settings.resolverDir) := by
                rw [← fails, isStarted]
                exact fun ⟨_, impossible⟩ => nomatch impossible
              refine .started loaded failed asksNot isStarted ?_
              rw [runAll_append, runAll_setupCalls failed]
              exact runAll_eventCalls inputs result.2 _

theorem ProgramOutcome.fails_iff {start : ProgramStart}
    (outcome : ProgramOutcome tree surroundings inputs shuffles start) :
    (∃ error, start.started = .error error) ↔
      (∃ error, ResolverSettings.load tree inputs.settingsPath inputs.overrides = .error error) ∨
        ∃ settings,
          ResolverSettings.load tree inputs.settingsPath inputs.overrides = .ok settings ∧
            ((setup tree surroundings inputs settings).failure.isSome = true ∨
              AsksForNulUser settings.resolvConf ∨ AsksForNulUser settings.resolverDir) := by
  cases outcome with
  | unsettled refused => exact iff_of_true ⟨_, rfl⟩ (Or.inl ⟨_, refused⟩)
  | @unlogged settings error loaded failed =>
      refine iff_of_true ⟨_, rfl⟩ (Or.inr ⟨settings, loaded, Or.inl ?_⟩)
      rw [failed]
      rfl
  | @homeless settings error loaded succeeded asks =>
      exact iff_of_true ⟨_, rfl⟩ (Or.inr ⟨settings, loaded, Or.inr asks⟩)
  | @started settings started events loggers written loaded succeeded asksNot isStarted logged =>
      refine iff_of_false (fun ⟨_, impossible⟩ => nomatch impossible) ?_
      rintro (⟨error, refused⟩ | ⟨found, again, failed | asks⟩)
      · exact nomatch refused.symm.trans loaded
      · rw [← Except.ok.inj (loaded.symm.trans again), succeeded] at failed
        exact absurd failed Bool.false_ne_true
      · rw [← Except.ok.inj (loaded.symm.trans again)] at asks
        exact asksNot asks

/-- **Whatever is wrong with the files of the provider does not stop a program.** It does not start
exactly if its settings are refused, its loggers cannot be configured, or a path of its settings
asks for the home directory of a user whose name holds a NUL character. -/
theorem startProgram_fails_iff (tree : FileTree) (surroundings : Surroundings)
    (inputs : ProgramInputs) (shuffles : Nat → Shuffle) :
    (∃ error, (startProgram tree surroundings inputs shuffles).started = .error error) ↔
      (∃ error, ResolverSettings.load tree inputs.settingsPath inputs.overrides = .error error) ∨
        ∃ settings,
          ResolverSettings.load tree inputs.settingsPath inputs.overrides = .ok settings ∧
            ((setup tree surroundings inputs settings).failure.isSome = true ∨
              AsksForNulUser settings.resolvConf ∨ AsksForNulUser settings.resolverDir) :=
  (programOutcome tree surroundings inputs shuffles).fails_iff

/-- What a program leaves behind that has started from files, when some calls were made on its
loggers. -/
structure LeavesBehind (tree files : FileTree) (surroundings : Surroundings)
    (inputs : ProgramInputs) (settings : ResolverSettings) (calls : List Call) (started : Started)
    (start : ProgramStart) : Prop where
  /-- The caller is left with its own choice of servers exactly if the files name none. -/
  isNoop : started = .noop ↔
    NamesNoServer files (settingPath surroundings.homes settings.resolvConf)
      (settingPath surroundings.homes settings.resolverDir) (.text settings.addressOrder.name)
      inputs.environmentOptions
  /-- The loggers are as the configuration of the start asks for, also for the next record. -/
  reconfigured : ∃ place, Reconfigured (asked tree.workplace calls) place inputs.tracing
    (assigned calls) start.loggers start.output

theorem ProgramOutcome.leavesBehind {start : ProgramStart} {given : Started}
    (outcome : ProgramOutcome tree surroundings inputs shuffles start)
    (isStarted : start.started = .ok given) :
    ∃ settings events files,
      ResolverSettings.load tree inputs.settingsPath inputs.overrides = .ok settings ∧
        startFromSettings files surroundings.homes settings inputs.environmentOptions shuffles =
          .ok (given, events) ∧
        LeavesBehind tree files surroundings inputs settings
          (setupCalls surroundings inputs settings ++ eventCalls inputs events) given start ∧
        ((asked tree.workplace (setupCalls surroundings inputs settings)).file = none →
          files = tree) := by
  cases outcome with
  | unsettled => exact nomatch isStarted
  | unlogged => exact nomatch isStarted
  | homeless => exact nomatch isStarted
  | @started settings started events loggers written loaded succeeded asksNot starts logged =>
      obtain rfl := Except.ok.inj isStarted
      have atStart : Follows tree.workplace inputs.tracing [] (.start inputs.tracing)
        (.start tree) [] := follows_start inputs.tracing (.start tree)
      obtain ⟨place, follows⟩ := follows_runAll atStart logged
      exact ⟨settings, events, (setup tree surroundings inputs settings).output.files, loaded,
        starts, ⟨startFromSettings_noop_iff (isNormal_of_load loaded) starts, place,
          reconfigured_of_follows follows⟩, setup_files succeeded⟩

/-- **A program that starts has the provider of the files that its settings name**, as they are
behind the configuration of its loggers; without a log file this is how they were. Its loggers are
as that configuration asks for, behind a record of each event. -/
theorem startProgram_leavesBehind {given : Started}
    (isStarted : (startProgram tree surroundings inputs shuffles).started = .ok given) :
    ∃ settings events files,
      ResolverSettings.load tree inputs.settingsPath inputs.overrides = .ok settings ∧
        startFromSettings files surroundings.homes settings inputs.environmentOptions shuffles =
          .ok (given, events) ∧
        LeavesBehind tree files surroundings inputs settings
          (setupCalls surroundings inputs settings ++ eventCalls inputs events) given
          (startProgram tree surroundings inputs shuffles) ∧
        ((asked tree.workplace (setupCalls surroundings inputs settings)).file = none →
          files = tree) :=
  (programOutcome tree surroundings inputs shuffles).leavesBehind isStarted

end HostResolver.Provider
