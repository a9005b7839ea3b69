import HostResolver.Logging.Filling
import HostResolver.Logging.Level
import HostResolver.Time.Instant

/-!
Log records.

This module owns what is known of one event that is logged, and its message. A message without
arguments is taken as it is, so that a per cent sign in it stands for itself.
-/

namespace HostResolver.Logging

open HostResolver.Document HostResolver.Text HostResolver.Time

/-- A failure that a record reports: the name of its kind, and its words. -/
structure Failure where
  kind : String
  text : String
deriving DecidableEq, Repr

/-- A record. -/
structure Record where
  logger : String
  level : Level
  /-- The level has a text, since the record holds it. -/
  writable : isWritable level = true
  /-- The message before its arguments are filled in. -/
  template : String
  arguments : List Value
  created : Stamp
  failure : Option Failure
  /-- The calls that led to the record, as a text. -/
  stack : Option String

/-- The kinds of failures of a text that is no program. -/
def Failure.syntaxKinds : List String := ["SyntaxError", "IndentationError", "TabError"]

/-- The words of a failure as a line shows them. The words for a missing key are the quoted key, and
those for a text that is no program are never missing. -/
def Failure.words (failure : Failure) : String :=
  if failure.kind = "KeyError" then quoted failure.text
  else if failure.text.isEmpty && syntaxKinds.contains failure.kind then "<no detail available>"
  else failure.text

/-- A failure in one line: its kind, and its words if it has any. -/
def Failure.shown (failure : Failure) : String :=
  if failure.words.isEmpty then failure.kind else s!"{failure.kind}: {failure.words}"

def Record.message (record : Record) : Except TemplateError String :=
  if record.arguments.isEmpty then .ok record.template
  else Template.fill record.template (.ofList record.arguments)

end HostResolver.Logging
