import HostResolver.Proofs.Logging.Equipping

/-!
Delivery of records.

Owns: what the delivery of a record to every destination writes, and nothing besides.

Does not own: which records are delivered.
-/

namespace HostResolver.Logging

open HostResolver.Files

variable {destinations : Destinations} {tracing : Tracing} {record : Record}
  {before after : Output} {place : Place}

/-! ## What is written -/

/-- The line of a record with its line feed; empty if the record cannot be laid out. -/
def shownLine (record : Record) : String :=
  match BracketLayout.standard.format record with
  | .ok line => line ++ "\n"
  | .error _ => ""

def syslogLines (record : Record) : List String :=
  match syslogLine record with
  | .ok line => [line]
  | .error _ => []

/-- What stands on the standard error stream of a record that a handler cannot lay out. -/
def Handler.reportOn (handler : Handler) (tracing : Tracing) (record : Record) : String :=
  match handler.line record with
  | .ok _ => ""
  | .error error => (tracing.map fun trace => report trace record error).getD ""

/-- The reports of handlers in turn. -/
def reportsOn (handlers : List Handler) (tracing : Tracing) (record : Record) : String :=
  handlers.foldr (fun handler later => handler.reportOn tracing record ++ later) ""

/-- A record is delivered once to each destination and to nothing else. What is no line for a
handler is reported, if such records are reported. -/
structure DeliveredOnce (destinations : Destinations) (place : Place) (tracing : Tracing)
    (record : Record) (before after : Output) : Prop where
  console : after.console =
    before.console ++ (if destinations.console then shownLine record else "") ++
      reportsOn (destinations.handlers place) tracing record
  /-- Lines go to the system log of now, and to no other one. -/
  syslog : after.syslog = before.syslog ++
    (destinations.syslog.map fun target => (syslogLines record).map fun line =>
      (target, line)).getD []
  file : destinations.file.isSome = true →
    FileTree.Grows place (shownLine record).toUTF8.toList before.files after.files
  others : ∀ other, (destinations.file.isSome = true → other ≠ place) →
    after.files.entry? other = before.files.entry? other
  workplace : after.files.workplace = before.files.workplace

/-- A record is delivered once to each destination, or stands bare on the standard error stream if
there is none and the record is serious. -/
def Delivers (destinations : Destinations) (place : Place) (tracing : Tracing) (record : Record)
    (before after : Output) : Prop :=
  if (destinations.handlers place).isEmpty then after = Loggers.writeBare tracing record before
  else DeliveredOnce destinations place tracing record before after

/-! ## Reports -/

theorem writeReport_eq (tracing : Tracing) (record : Record) (error : LayoutError)
    (output : Output) :
    output.writeReport tracing record error =
      { output with console := output.console ++
          (tracing.map fun trace => report trace record error).getD "" } := by
  unfold Output.writeReport
  cases tracing with
  | none => rw [Option.map_none, Option.getD_none, String.append_empty]
  | some trace => rfl

theorem reportsOn_append (front back : List Handler) (tracing : Tracing) (record : Record) :
    reportsOn (front ++ back) tracing record =
      reportsOn front tracing record ++ reportsOn back tracing record := by
  unfold reportsOn
  induction front with
  | nil => rw [List.nil_append, List.foldr_nil, String.empty_append]
  | cons handler rest inductionHypothesis =>
      rw [List.cons_append, List.foldr_cons, List.foldr_cons, inductionHypothesis,
        String.append_assoc]

theorem reportsOn_singleton (handler : Handler) (tracing : Tracing) (record : Record) :
    reportsOn [handler] tracing record = handler.reportOn tracing record := String.append_empty

/-! ## One handler -/

theorem deliver_console (tracing : Tracing) (record : Record) (output : Output) :
    Handler.console.deliver tracing record output =
      { output with console := output.console ++ shownLine record ++
          Handler.console.reportOn tracing record } := by
  unfold Handler.deliver Handler.reportOn Handler.line shownLine
  cases BracketLayout.standard.format record with
  | ok line => simp only [Handler.write, Output.writeConsole, String.append_empty]
  | error error => simp only [writeReport_eq, String.append_empty]

theorem deliver_syslog (target : SyslogTarget) (tracing : Tracing) (record : Record)
    (output : Output) :
    (Handler.syslog target).deliver tracing record output =
      { output with
        console := output.console ++ (Handler.syslog target).reportOn tracing record
        syslog := output.syslog ++ (syslogLines record).map fun line => (target, line) } := by
  unfold Handler.deliver Handler.reportOn Handler.line syslogLines
  cases syslogLine record with
  | ok line => simp only [Handler.write, String.append_empty, List.map_cons, List.map_nil]
  | error error => simp only [writeReport_eq, List.map_nil, List.append_nil]

theorem deliver_file (path : Path) (tracing : Tracing) (record : Record)
    (holds : before.files.HoldsLog place) :
    ∃ files,
      (Handler.file path place).deliver tracing record before =
        ⟨before.console ++ (Handler.file path place).reportOn tracing record, before.syslog,
          files⟩ ∧
      FileTree.Grows place (shownLine record).toUTF8.toList before.files files ∧
      (∀ other, other ≠ place → files.entry? other = before.files.entry? other) ∧
      files.workplace = before.files.workplace := by
  unfold Handler.deliver Handler.reportOn Handler.line shownLine
  cases BracketLayout.standard.format record with
  | ok line =>
      simp only [Handler.write, String.append_empty]
      exact ⟨_, rfl, FileTree.grows_append holds _,
        fun other different => FileTree.entry?_append_of_ne different _,
        FileTree.append_workplace _⟩
  | error error =>
      have nothing : "".toUTF8.toList = [] := by decide +kernel
      simp only [writeReport_eq, nothing]
      exact ⟨before.files, rfl, FileTree.grows_nothing holds, fun _ _ => rfl, rfl⟩

/-! ## All handlers -/

/-- Delivers a record to handlers in turn. -/
def deliverAll (tracing : Tracing) (record : Record) (handlers : List Handler) (output : Output) :
    Output :=
  handlers.foldl (fun written handler => handler.deliver tracing record written) output

theorem deliverAll_append (tracing : Tracing) (record : Record) (front back : List Handler)
    (output : Output) :
    deliverAll tracing record (front ++ back) output =
      deliverAll tracing record back (deliverAll tracing record front output) :=
  List.foldl_append

theorem deliverAll_console (asked : Bool) (tracing : Tracing) (record : Record) (output : Output) :
    deliverAll tracing record (if asked then [.console] else []) output =
      { output with
        console := output.console ++ (if asked then shownLine record else "") ++
          reportsOn (if asked then [.console] else []) tracing record } := by
  cases asked with
  | true =>
      rw [if_pos rfl, if_pos rfl, reportsOn_singleton]
      exact deliver_console tracing record output
  | false =>
      change output = { output with console := output.console ++ "" ++ "" }
      rw [String.append_empty, String.append_empty]

theorem deliverAll_syslog (target : Option SyslogTarget) (tracing : Tracing) (record : Record)
    (output : Output) :
    deliverAll tracing record (target.map Handler.syslog).toList output =
      { output with
        console := output.console ++ reportsOn (target.map Handler.syslog).toList tracing record
        syslog := output.syslog ++ (target.map fun target => (syslogLines record).map fun line =>
          (target, line)).getD [] } := by
  cases target with
  | some target =>
      rw [Option.map_some, Option.toList_some, reportsOn_singleton]
      exact deliver_syslog target tracing record output
  | none =>
      change output = { output with
        console := output.console ++ "", syslog := output.syslog ++ [] }
      rw [String.append_empty, List.append_nil]

/-- The handlers of a log file write to it, and nowhere else. -/
theorem deliverAll_file {file : Option Path} (tracing : Tracing) (record : Record)
    (holds : file.isSome = true → before.files.HoldsLog place) :
    ∃ files,
      deliverAll tracing record (file.map fun path => Handler.file path place).toList before =
        ⟨before.console ++
          reportsOn (file.map fun path => Handler.file path place).toList tracing record,
          before.syslog, files⟩ ∧
      (file.isSome = true →
        FileTree.Grows place (shownLine record).toUTF8.toList before.files files) ∧
      (∀ other, (file.isSome = true → other ≠ place) →
        files.entry? other = before.files.entry? other) ∧
      files.workplace = before.files.workplace := by
  cases file with
  | none =>
      refine ⟨before.files, ?_, nofun, fun _ _ => rfl, rfl⟩
      change before = ⟨before.console ++ "", before.syslog, before.files⟩
      rw [String.append_empty]
  | some path =>
      obtain ⟨files, delivered, grown, others, sameStart⟩ :=
        deliver_file path tracing record (holds rfl)
      refine ⟨files, ?_, fun _ => grown, fun other different => others other (different rfl),
        sameStart⟩
      rw [Option.map_some, Option.toList_some, reportsOn_singleton]
      exact delivered

/-- Handlers in turn write what each of them writes. -/
theorem deliveredOnce_deliverAll (tracing : Tracing) (record : Record)
    (holds : destinations.file.isSome = true → before.files.HoldsLog place) :
    DeliveredOnce destinations place tracing record before
      (deliverAll tracing record (destinations.handlers place) before) := by
  obtain ⟨console, file, syslog⟩ := destinations
  have holdsBehind : file.isSome = true → FileTree.HoldsLog
      (deliverAll tracing record (if console then [.console] else []) before).files place := by
    rw [deliverAll_console]
    exact holds
  obtain ⟨files, written, grown, others, sameStart⟩ := deliverAll_file tracing record holdsBehind
  rw [deliverAll_console] at written grown others sameStart
  have delivered :
      deliverAll tracing record (Destinations.handlers ⟨console, file, syslog⟩ place) before =
        ⟨before.console ++ (if console then shownLine record else "") ++
            reportsOn (Destinations.handlers ⟨console, file, syslog⟩ place) tracing record,
          before.syslog ++ (syslog.map fun target => (syslogLines record).map fun line =>
            (target, line)).getD [], files⟩ := by
    unfold Destinations.handlers
    rw [deliverAll_append, deliverAll_append, deliverAll_console, written, deliverAll_syslog,
      reportsOn_append, reportsOn_append]
    simp only [String.append_assoc]
  rw [delivered]
  exact ⟨rfl, rfl, grown, others, sameStart⟩

theorem holdsLog_of_leadTo {files : FileTree} (leads : destinations.LeadTo files place)
    (asked : destinations.file.isSome = true) : files.HoldsLog place := by
  obtain ⟨path, isPath⟩ := Option.isSome_iff_exists.1 asked
  exact (leads path isPath).holds

theorem delivers_of_deliver {loggers : Loggers} (record : Record)
    (equipped : loggers.handlers = destinations.handlers place)
    (leads : destinations.LeadTo before.files place) :
    Delivers destinations place loggers.tracing record before (loggers.deliver record before) := by
  unfold Delivers Loggers.deliver
  rw [equipped]
  cases (destinations.handlers place).isEmpty with
  | true => exact rfl
  | false => exact deliveredOnce_deliverAll loggers.tracing record (holdsLog_of_leadTo leads)

/-! ## Log files stay -/

theorem writeBare_files (tracing : Tracing) (record : Record) (output : Output) :
    (Loggers.writeBare tracing record output).files = output.files := by
  unfold Loggers.writeBare
  split
  · rfl
  · split
    · rfl
    · rw [writeReport_eq]

theorem workplace_of_delivers
    (delivered : Delivers destinations place tracing record before after) :
    after.files.workplace = before.files.workplace := by
  unfold Delivers at delivered
  split at delivered
  · rw [delivered, writeBare_files]
  · exact delivered.workplace

/-- Behind a record the path of the log file leads where it led before. -/
theorem leadTo_of_delivers (delivered : Delivers destinations place tracing record before after)
    (leads : destinations.LeadTo before.files place) : destinations.LeadTo after.files place := by
  unfold Delivers at delivered
  split at delivered
  · rw [delivered, writeBare_files]
    exact leads
  · intro path isPath
    have asked : destinations.file.isSome = true := Option.isSome_iff_exists.2 ⟨path, isPath⟩
    exact (leads path isPath).of_grows (delivered.file asked)
      (fun other different => delivered.others other fun _ => different) delivered.workplace

end HostResolver.Logging
