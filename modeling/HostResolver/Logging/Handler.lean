import HostResolver.Files.Writing
import HostResolver.Logging.Layout
import HostResolver.Logging.Syslog

/-!
Handlers of log records.

This module owns the three places that records go to, the layout that each of them uses, and what is
written. A record that cannot be laid out is not written; a program may report it on its standard
error stream instead.
-/

namespace HostResolver.Logging

open HostResolver.Files HostResolver.Text

/-- A place that records go to. -/
inductive Handler where
  | console
  /-- The file at a path, which led to a place when it was opened. -/
  | file (path : Path) (place : Place)
  | syslog (target : SyslogTarget)

/-- What is written. -/
structure Output where
  /-- The text on the standard error stream. -/
  console : String
  /-- The lines in system logs, each with the one that it went to. -/
  syslog : List (SyslogTarget × String)
  /-- The files, log files among them. -/
  files : FileTree

def Output.start (files : FileTree) : Output := ⟨"", [], files⟩

/-- How a program traces a record that cannot be laid out; none if it does not report such records.
-/
abbrev Tracing := Option (Record → LayoutError → String)

/-- The report on a record that cannot be laid out. -/
def report (trace : Record → LayoutError → String) (record : Record) (error : LayoutError) :
    String :=
  "--- Logging error ---\n" ++ trace record error ++
    match BracketLayout.shownArguments record.arguments with
    | some arguments => s!"Message: {quoted record.template}\nArguments: {arguments}\n"
    | none =>
      "Unable to print the message and arguments - possible formatting error.\n" ++
        "Use the traceback above to help find the error.\n"

namespace Output

def writeConsole (output : Output) (text : String) : Output :=
  { output with console := output.console ++ text }

/-- Reports a record that cannot be laid out, if such records are reported. -/
def writeReport (output : Output) (tracing : Tracing) (record : Record) (error : LayoutError) :
    Output :=
  match tracing with
  | none => output
  | some trace => output.writeConsole (report trace record error)

end Output

namespace Handler

/-- The line of a record for a handler. -/
def line (handler : Handler) (record : Record) : Except LayoutError String :=
  match handler with
  | .console | .file _ _ => BracketLayout.standard.format record
  | .syslog _ => syslogLine record

def write (handler : Handler) (line : String) (output : Output) : Output :=
  match handler with
  | .console => output.writeConsole (line ++ "\n")
  | .file _ place =>
    { output with files := output.files.append place (line ++ "\n").toUTF8.toList }
  | .syslog target => { output with syslog := output.syslog ++ [(target, line)] }

/-- Writes a record, or the report on one that cannot be laid out. -/
def deliver (handler : Handler) (tracing : Tracing) (record : Record) (output : Output) : Output :=
  match handler.line record with
  | .ok line => handler.write line output
  | .error error => output.writeReport tracing record error

end Handler

end HostResolver.Logging
