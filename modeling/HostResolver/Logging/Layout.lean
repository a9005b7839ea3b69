import HostResolver.Logging.Record
import HostResolver.Text.Field
import HostResolver.Text.NameChar
import HostResolver.Time.Pattern

/-!
Layouts of log lines.

This module owns the two ways in which a record is written. The bracket layout fills the fields of a
record into a line template, with the time in universal time, and puts a failure and the stack on
lines of their own. The syslog layout gives tag, logger and message alone, since the system log
stamps the time itself.
-/

namespace HostResolver.Logging

open HostResolver.Document HostResolver.Number HostResolver.Text HostResolver.Time

/-- Why a record cannot be written. -/
inductive LayoutError where
  /-- The message or the line cannot be filled in. -/
  | template (error : TemplateError)
  /-- The line template asks for no field. -/
  | noField (line : String)
  /-- A record has no field of this name. -/
  | noSuchField (name : String)
  /-- The time falls on no date. -/
  | time (error : TimeError)
deriving DecidableEq, Repr

/-- The words for a record that cannot be written; none where arguments do not fit. -/
def LayoutError.message? : LayoutError → Option String
  | .template error => error.message?
  | .noField line =>
    some ("Invalid format '" ++ line ++ "' for '%' style")
  | .noSuchField name => some s!"Formatting field not found in record: {quoted name}"
  | .time error => some error.message

/-- The bracket layout. -/
structure BracketLayout where
  line : String
  time : String
deriving DecidableEq, Repr

namespace BracketLayout

/-- The line template that is used by default. -/
def defaultLine : String := "%(asctime)s %(level_tag)s %(name)s: %(message)s"

/-- The line template that gives the message alone. -/
def messageLine : String := "%(message)s"

/-- The pattern of the time that is used by default. -/
def defaultTime : String := "%Y-%m-%dT%H:%M:%SZ"

def standard : BracketLayout := ⟨defaultLine, defaultTime⟩

/-- The text behind a width, if one comes next. -/
def dropExtent : List Char → List Char
  | '*' :: rest => rest
  | text => text.dropWhile fun character => (decimalDigit? character).isSome

/-- The text behind a precision, if one comes next. -/
def dropPrecision (text : List Char) : List Char :=
  match text with
  | '.' :: rest => if (dropExtent rest).length < rest.length then dropExtent rest else text
  | _ => text

/-- Whether a letter can end a conversion that asks for a field. Letters of either case are taken,
and so are the three outside ASCII that have the letter i or s in the other case. -/
def isFieldLetter (letter : Char) : Bool :=
  ['d', 'i', 'o', 'u', 'x', 'e', 'f', 'g', 'c', 'r', 's', 'a', '%'].contains letter.toLower ||
    [0x130, 0x131, 0x17F].contains letter.toNat

/-- Whether a text continues a per cent sign to a conversion that asks for a field. -/
def asksForField : List Char → Bool
  | '(' :: text =>
    match text.dropWhile isNameChar with
    | ')' :: rest =>
      let letters := dropPrecision (dropExtent (Conversion.takeFlags {} rest).2)
      !(text.takeWhile isNameChar).isEmpty && letters.head?.any isFieldLetter
    | _ => false
  | _ => false

/-- Whether a text asks for a field at some place. -/
def hasField : List Char → Bool
  | [] => false
  | character :: rest => (character == '%' && asksForField rest) || hasField rest

/-- The layout with a line template and a pattern of the time, empty ones standing for the message
alone and for the default. -/
def ofTemplates (line time : String) : Except LayoutError BracketLayout :=
  let line := if line.isEmpty then messageLine else line
  if hasField line.toList then .ok ⟨line, if time.isEmpty then defaultTime else time⟩
  else .error (.noField line)

/-- Whether a text occurs in another one. -/
def occursIn (part : List Char) : List Char → Bool
  | [] => part.isEmpty
  | character :: rest => part.isPrefixOf (character :: rest) || occursIn part rest

/-- Whether the line template asks for the time. -/
def usesTime (layout : BracketLayout) : Bool :=
  occursIn "%(asctime)".toList layout.line.toList

/-- The time of a stamp after a pattern. -/
def timeText (layout : BracketLayout) (stamp : Stamp) : Except LayoutError String :=
  match Instant.ofStamp stamp >>= Moment.ofInstant with
  | .ok moment => .ok (Pattern.fill layout.time moment)
  | .error error => .error (.time error)

/-- A number of seconds as a value. -/
def stampValue : Stamp → Value
  | .whole seconds => .int seconds
  | .floating seconds => .float seconds

/-- The arguments of a record in one text, if all of them have one. -/
def shownArguments (values : List Value) : Option String :=
  (values.mapM Value.quoted?).map fun texts =>
    match values, texts with
    | [.mapping (_ :: _)], [text] => text
    | _, [text] => s!"({text},)"
    | _, texts => "(" ++ ", ".intercalate texts ++ ")"

def describedFailure (failure : Failure) : String :=
  let kind := quoted failure.kind
  s!"(<class {kind}>, {failure.kind}({quoted failure.text}), None)"

def textField (text : String) : Argument := .value (.text text)

/-- The fields that every record has. Nothing is known of the place in a program that a record comes
from. -/
def commonFields (record : Record) (message : String) : List (String × Argument) := [
  ("name", textField record.logger), ("msg", textField record.template),
  ("args", .other (shownArguments record.arguments)),
  ("levelname", textField record.level.name), ("levelno", .value (.int record.level)),
  ("pathname", textField ""), ("filename", textField ""), ("module", textField ""),
  ("exc_info",
    (record.failure.map fun found => Argument.other (some (describedFailure found))).getD
      (.value .null)),
  ("exc_text", .value .null),
  ("stack_info", (record.stack.map textField).getD (.value .null)),
  ("lineno", .value (.int 0)), ("funcName", .value .null),
  ("created", .value (stampValue record.created)),
  ("msecs", .value (.float record.created.milliseconds)),
  ("threadName", textField "MainThread"), ("processName", textField "MainProcess"),
  ("level_tag", textField record.level.tag), ("message", textField message)]

def fields (record : Record) (message : String) (time : Option String) :
    List (String × Argument) :=
  commonFields record message ++ (time.map fun time => ("asctime", textField time)).toList

/-- Fields in one text, if all of them have one. -/
def shownFields (fields : List (String × Argument)) : Option String :=
  let entries := fields.mapM fun field =>
    field.2.quoted.toOption.map fun text => s!"{quoted field.1}: {text}"
  entries.map fun entries => "\x7b" ++ ", ".intercalate entries ++ "\x7d"

/-- The line of a record. A conversion without a name takes all fields together. -/
def lineText (layout : BracketLayout) (record : Record) (message : String)
    (time : Option String) : Except LayoutError String :=
  let fields := fields record message time
  match Template.fill layout.line (.named fields (some (.other (shownFields fields)))) with
  | .ok text => .ok text
  | .error (.noSuchKey name) => .error (.noSuchField name)
  | .error error => .error (.template error)

/-- A text with more on a line of its own. -/
def onNewLine (text more : String) : String :=
  if text.toList.getLast? == some '\n' then text ++ more else text ++ "\n" ++ more

def format (layout : BracketLayout) (record : Record) : Except LayoutError String := do
  let message ← record.message.mapError .template
  let time ← if layout.usesTime then some <$> layout.timeText record.created else pure none
  let line ← layout.lineText record message time
  let withFailure :=
    match record.failure with
    | none => line
    | some failure => onNewLine line failure.shown
  match record.stack with
  | none | some "" => return withFailure
  | some stack => return onNewLine withFailure stack

end BracketLayout

def syslogLine (record : Record) : Except LayoutError String := do
  let message ← record.message.mapError .template
  return s!"{record.level.tag} {record.logger}: {message}"

end HostResolver.Logging
