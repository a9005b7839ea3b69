import HostResolver.Proofs.Logging.Assignments

/-!
Runs of configurations and of records.

Owns: what one call preserves, and with it, of every run in which no configuration fails, the
handlers of the root, the levels of all loggers, and where the next record goes.

Does not own: configurations that fail.

That a record goes where the nearest assigned level lets it is said for settled loggers: for all
others the hierarchy has changed behind them, since their names are not plain and a logger above
them came later. Through these a record is delivered once or not at all.
-/

namespace HostResolver.Logging

open HostResolver.Document HostResolver.Files

/-- A configuration, or a record that is logged. -/
inductive Call where
  | configure (surroundings : Surroundings) (setting : Value)
  | log (record : Record)

namespace Call

def run (call : Call) (state : Loggers × Output) : Except SetupError (Loggers × Output) :=
  match call with
  | .log record => .ok (state.1.log record state.2)
  | .configure surroundings setting =>
    let configured := state.1.configure surroundings setting state.2
    match configured.failure with
    | none => .ok (configured.loggers, configured.output)
    | some error => .error error

/-- The levels that a call assigns. -/
def assignments : Call → Assignments
  | .log _ => []
  | .configure _ setting =>
    match Configuration.ofValue setting with
    | .ok configuration => configuration.assignments
    | .error _ => []

/-- The destinations that a call asks for, seen from a working directory. -/
def destinations? (workplace : Place) : Call → Option Destinations
  | .log _ => none
  | .configure surroundings setting =>
    (Configuration.ofValue setting).toOption.map (surroundings.destinations workplace)

end Call

/-- Calls in turn, as long as no configuration fails. -/
def runAll (calls : List Call) (state : Loggers × Output) : Except SetupError (Loggers × Output) :=
  calls.foldlM (fun state call => call.run state) state

/-- The levels that calls assign, in order. -/
def assigned (calls : List Call) : Assignments := calls.flatMap Call.assignments

/-- The destinations that the last configuration asks for, seen from a working directory. -/
def asked (workplace : Place) (calls : List Call) : Destinations :=
  (calls.reverse.findSome? (Call.destinations? workplace)).getD .none

theorem assigned_append_singleton (calls : List Call) (call : Call) :
    assigned (calls ++ [call]) = assigned calls ++ call.assignments := by
  unfold assigned
  rw [List.flatMap_append, List.flatMap_singleton]

theorem asked_append_singleton (workplace : Place) (calls : List Call) (call : Call) :
    asked workplace (calls ++ [call]) =
      (call.destinations? workplace).getD (asked workplace calls) := by
  unfold asked
  rw [List.reverse_append, List.reverse_singleton, List.singleton_append, List.findSome?_cons]
  cases call.destinations? workplace <;> rfl

theorem assigned_pos (calls : List Call) : ∀ entry ∈ assigned calls, 0 < entry.2 := by
  intro entry member
  obtain ⟨call, _, within⟩ := List.mem_flatMap.1 member
  cases call with
  | log record => exact nomatch within
  | configure surroundings setting =>
      unfold Call.assignments at within
      cases isConfiguration : Configuration.ofValue setting with
      | error error =>
          simp only [isConfiguration] at within
          exact nomatch within
      | ok configuration =>
          simp only [isConfiguration] at within
          exact Configuration.assignments_pos isConfiguration entry within

/-! ## One call -/

/-- The loggers are as the calls so far ask for, the log file at a place. -/
structure Follows (workplace : Place) (tracing : Tracing) (calls : List Call) (loggers : Loggers)
    (output : Output) (place : Place) : Prop where
  handlers : loggers.handlers = (asked workplace calls).handlers place
  leads : (asked workplace calls).LeadTo output.files place
  workplace : output.files.workplace = workplace
  tracing : loggers.tracing = tracing
  carries : loggers.Carries (assigned calls)
  coherent : loggers.Coherent

variable {workplace place : Place} {tracing : Tracing} {calls : List Call}
  {loggers later : Loggers} {output written : Output}

theorem follows_start (tracing : Tracing) (output : Output) :
    Follows output.files.workplace tracing [] (.start tracing) output place where
  handlers := rfl
  leads := fun _ absent => nomatch absent
  workplace := rfl
  tracing := rfl
  carries := Loggers.carries_start tracing
  coherent := Loggers.coherent_start tracing

theorem delivered_or_unchanged (follows : Follows workplace tracing calls loggers output place)
    (record : Record) :
    (loggers.log record output).2 = output ∨
      Delivers (asked workplace calls) place tracing (Loggers.named record) output
        (loggers.log record output).2 := by
  rw [Loggers.log_output, ← follows.tracing]
  split
  · exact Or.inr (delivers_of_deliver _ follows.handlers follows.leads)
  · exact Or.inl rfl

theorem follows_log (follows : Follows workplace tracing calls loggers output place)
    (record : Record) :
    Follows workplace tracing (calls ++ [.log record]) (loggers.log record output).1
      (loggers.log record output).2 place := by
  have sameAsked : asked workplace (calls ++ [.log record]) = asked workplace calls :=
    asked_append_singleton workplace calls _
  have sameAssigned : assigned (calls ++ [.log record]) = assigned calls :=
    (assigned_append_singleton calls _).trans (List.append_nil _)
  constructor
  · rw [sameAsked, Loggers.log_loggers, Loggers.decideOn_handlers]
    exact follows.handlers
  · rw [sameAsked]
    rcases delivered_or_unchanged follows record with unchanged | delivered
    · rw [unchanged]
      exact follows.leads
    · exact leadTo_of_delivers delivered follows.leads
  · rcases delivered_or_unchanged follows record with unchanged | delivered
    · rw [unchanged]
      exact follows.workplace
    · exact (workplace_of_delivers delivered).trans follows.workplace
  · rw [Loggers.log_loggers, Loggers.decideOn_tracing]
    exact follows.tracing
  · rw [sameAssigned]
    exact Loggers.carries_log follows.carries record output
  · exact Loggers.coherent_log follows.coherent record output

/-- A report is logged when the handlers of before are gone, so that it reaches no file. -/
theorem logIfAny_files (unequipped : loggers.handlers = []) (report : Option Record)
    (output : Output) : (loggers.logIfAny report output).2.files = output.files := by
  cases report with
  | none => rfl
  | some record =>
      change (loggers.log record output).2.files = output.files
      rw [Loggers.log_output]
      split
      · unfold Loggers.deliver
        rw [unequipped]
        exact writeBare_files loggers.tracing _ output
      · rfl

theorem equip_tracing (loggers : Loggers) (level : Level) (report : Option Record)
    (output : Output) (handlers : List Handler) (levels : Assignments) :
    (((loggers.clear level).logIfAny report output).1.equip handlers levels).tracing =
      loggers.tracing := by
  have setLevel_tracing (loggers : Loggers) (name : String) (level : Level) :
      (loggers.setLevel name level).tracing = loggers.tracing := by
    unfold Loggers.setLevel
    split
    · rfl
    · exact Loggers.know_tracing loggers name
  have assign_tracing (loggers : Loggers) :
      (loggers.assign levels).tracing = loggers.tracing := by
    unfold Loggers.assign
    induction levels generalizing loggers with
    | nil => rfl
    | cons entry rest inductionHypothesis =>
        rw [List.foldl_cons, inductionHypothesis, setLevel_tracing]
  have reported : ((loggers.clear level).logIfAny report output).1.tracing = loggers.tracing := by
    cases report with
    | none => exact setLevel_tracing loggers _ level
    | some record =>
        change ((loggers.clear level).log record output).1.tracing = _
        rw [Loggers.log_loggers, Loggers.decideOn_tracing]
        exact setLevel_tracing loggers _ level
  exact (assign_tracing _).trans reported

theorem follows_configure (follows : Follows workplace tracing calls loggers output place)
    {surroundings : Surroundings} {setting : Value}
    (succeeded : (loggers.configure surroundings setting output).failure = none) :
    ∃ place, Follows workplace tracing (calls ++ [.configure surroundings setting])
      (loggers.configure surroundings setting output).loggers
      (loggers.configure surroundings setting output).output place := by
  obtain ⟨configuration, files, place, syslog, report, levels, isConfiguration, opens, reached,
    isLevels⟩ := Loggers.exists_of_failure_eq_none succeeded
  have isAsked : asked workplace (calls ++ [.configure surroundings setting]) =
      surroundings.destinations workplace configuration := by
    rw [asked_append_singleton, Call.destinations?, isConfiguration]
    rfl
  have isAssigned : assigned (calls ++ [.configure surroundings setting]) =
      assigned calls ++ [(Loggers.rootName, configuration.level)] ++ levels := by
    rw [assigned_append_singleton, Call.assignments, isConfiguration, ← List.append_cons]
    simp only [Configuration.assignments, isLevels, Option.getD_some]
  have sameStart := follows.workplace
  refine ⟨place, ?_⟩
  rw [Loggers.configure_of_ok isConfiguration opens reached isLevels]
  constructor
  · rw [isAsked, ← sameStart]
    exact Loggers.equip_handlers _ _ _
  · rw [isAsked, logIfAny_files rfl, ← sameStart]
    exact opens.leads
  · rw [logIfAny_files rfl]
    exact opens.workplace.trans sameStart
  · rw [equip_tracing]
    exact follows.tracing
  -- The root takes its level, the report is logged, then the named loggers take theirs.
  · rw [isAssigned]
    have cleared := Loggers.carries_clear follows.carries configuration.level
    exact Loggers.carries_equip (Loggers.carries_logIfAny cleared report _) _ levels
  · have cleared := Loggers.coherent_clear follows.coherent configuration.level
    exact Loggers.coherent_equip (Loggers.coherent_logIfAny cleared report _) _ levels

theorem follows_call (follows : Follows workplace tracing calls loggers output place) {call : Call}
    (ran : call.run (loggers, output) = .ok (later, written)) :
    ∃ place, Follows workplace tracing (calls ++ [call]) later written place := by
  cases call with
  | log record =>
      obtain ⟨sameLoggers, sameOutput⟩ := Prod.mk.inj (Except.ok.inj ran)
      rw [← sameLoggers, ← sameOutput]
      exact ⟨place, follows_log follows record⟩
  | configure surroundings setting =>
      unfold Call.run at ran
      cases failed : (loggers.configure surroundings setting output).failure with
      | some error =>
          simp only [failed] at ran
          exact nomatch ran
      | none =>
          simp only [failed] at ran
          obtain ⟨sameLoggers, sameOutput⟩ := Prod.mk.inj (Except.ok.inj ran)
          rw [← sameLoggers, ← sameOutput]
          exact follows_configure follows failed

/-! ## Runs -/

theorem follows_runAll {more : List Call}
    (follows : Follows workplace tracing calls loggers output place)
    (ran : runAll more (loggers, output) = .ok (later, written)) :
    ∃ place, Follows workplace tracing (calls ++ more) later written place := by
  induction more generalizing calls loggers output place with
  | nil =>
      obtain ⟨sameLoggers, sameOutput⟩ := Prod.mk.inj (Except.ok.inj ran)
      rw [← sameLoggers, ← sameOutput, List.append_nil]
      exact ⟨place, follows⟩
  | cons call rest inductionHypothesis =>
      change (call.run (loggers, output)).bind (runAll rest) = _ at ran
      cases first : call.run (loggers, output) with
      | error error =>
          rw [first] at ran
          exact nomatch ran
      | ok state =>
          rw [first] at ran
          obtain ⟨between, followsFirst⟩ := follows_call follows first
          rw [List.append_cons]
          exact inductionHypothesis followsFirst ran

/-- The loggers and what is written are as some destinations and assignments have them, with the
path of the log file leading to a place. -/
structure Reconfigured (destinations : Destinations) (place : Place) (tracing : Tracing)
    (assignments : Assignments) (loggers : Loggers) (written : Output) : Prop where
  handlers : loggers.handlers = destinations.handlers place
  leads : destinations.LeadTo written.files place
  ownLevel : ∀ name, loggers.ownLevel name =
    (assignments.last? name).getD (Assignments.unassigned name)
  /-- The next record of a settled logger is delivered once to each handler if the nearest assigned
  level lets it pass, and not at all if it does not. -/
  passes : ∀ record : Record, loggers.IsSettled record.logger →
    assignments.nearestAmong (loggers.line record.logger) ≤ record.level →
    Delivers destinations place tracing (Loggers.named record) written
      (loggers.log record written).2
  stays : ∀ record : Record, loggers.IsSettled record.logger →
    record.level < assignments.nearestAmong (loggers.line record.logger) →
    (loggers.log record written).2 = written
  /-- The nearest assigned level is the one by name, where a name tells the loggers above it. -/
  byName : ∀ name, loggers.IsTold name →
    assignments.nearestAmong (loggers.line name) =
      assignments.nearestAmong (Loggers.lineBelowRoot name)
  once : ∀ record : Record, (loggers.log record written).2 = written ∨
    Delivers destinations place tracing (Loggers.named record) written
      (loggers.log record written).2

theorem reconfigured_of_follows
    (follows : Follows workplace tracing calls loggers written place) :
    Reconfigured (asked workplace calls) place tracing (assigned calls) loggers written := by
  have sound := follows.coherent.toKnowsLevelled
  refine ⟨follows.handlers, follows.leads, Loggers.ownLevel_of_carries follows.carries, ?_, ?_,
    fun name => Loggers.nearestAmong_line_of_isTold follows.carries sound,
    delivered_or_unchanged follows⟩
  · intro record settled passes
    have positive := Assignments.nearestAmong_pos (assigned_pos calls) (loggers.line record.logger)
    have isPositive : 0 < record.level := Int.lt_of_lt_of_le positive passes
    rw [Loggers.log_output_of_settled follows.coherent settled, Loggers.lets,
      Loggers.effectiveLevel_of_carries follows.carries sound, decide_eq_true isPositive,
      decide_eq_true passes, ← follows.tracing]
    exact delivers_of_deliver _ follows.handlers follows.leads
  · intro record settled stays
    rw [Loggers.log_output_of_settled follows.coherent settled, Loggers.lets,
      Loggers.effectiveLevel_of_carries follows.carries sound, decide_eq_false (Int.not_le.2 stays),
      Bool.and_false]
    rfl

end HostResolver.Logging
