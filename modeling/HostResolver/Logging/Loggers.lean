import HostResolver.Logging.Handler

/-!
Loggers.

This module owns the levels of loggers, which records they let pass, and the delivery of a record to
the handlers. Loggers are named by parts between points; a logger without a level of its own goes by
the nearest known one above it, and by the root at last. The root goes by two names, `root` and the
empty one.

A logger is known from its first use on, and takes its place above the loggers that it is an
ancestor of. A name that is a beginning of the word `root` does not do so for those that hang from
the root already. What a logger lets pass is decided once and kept until a level is set.

It does not own how loggers are configured, which is `HostResolver.Logging.Setup`.
-/

namespace HostResolver.Logging

/-- The state of all loggers. -/
structure Loggers where
  rootLevel : Level
  /-- The levels that were set, the last one first. -/
  levels : List (String × Level)
  /-- The handlers of the root, which all records reach. -/
  handlers : List Handler
  /-- Whether warnings of the program are logged. -/
  capturesWarnings : Bool
  /-- The known loggers below the root, the latest first. -/
  known : List String
  /-- Whether loggers let records of a level pass, as far as it is decided. -/
  decisions : List ((String × Level) × Bool)
  /-- How records that cannot be laid out are reported. -/
  tracing : Tracing

namespace Loggers

/-- The loggers of a program that has not configured them. -/
def start (tracing : Tracing) : Loggers := ⟨Level.warning, [], [], false, [], [], tracing⟩

/-! ## Names -/

/-- The name under which the root is shown. -/
def rootName : String := "root"

/-- Whether a name is one of the root. -/
def isRoot (name : String) : Bool := name.isEmpty || name == rootName

/-- What stands before the points of a name that is given in reverse, the longest first. A point
right before one that cuts does not cut, and neither does one at the start of the name. -/
def cuts : List Char → List (List Char)
  | [] => []
  | ['.'] => []
  | '.' :: character :: rest => (character :: rest) :: cuts rest
  | _ :: rest => cuts rest

/-- The names that a logger below the root may hang from, the nearest first. -/
def ancestors (name : String) : List String :=
  (cuts name.toList.reverse).map fun found => String.ofList found.reverse

def know (loggers : Loggers) (name : String) : Loggers :=
  if isRoot name || loggers.known.contains name then loggers
  else { loggers with known := name :: loggers.known }

/-- Whether a logger passes over a known ancestor: one that came later, and whose name is a
beginning of that of the root. -/
def passesOver (loggers : Loggers) (name ancestor : String) : Bool :=
  ancestor.toList.isPrefixOf rootName.toList &&
    (loggers.known.takeWhile (· != name)).contains ancestor

/-- The logger from which a logger hangs; none for the root. -/
def parent? (loggers : Loggers) (name : String) : Option String :=
  (ancestors name).find? fun ancestor =>
    loggers.known.contains ancestor && !loggers.passesOver name ancestor

/-- A logger and those above it up to the root; at most `fuel` of them are given. -/
def lineage (loggers : Loggers) : Nat → String → List String
  | 0, _ => []
  | fuel + 1, name => name :: ((loggers.parent? name).map (lineage loggers fuel)).getD []

/-! ## Levels -/

/-- The level of a logger itself, zero if none was set. -/
def ownLevel (loggers : Loggers) (name : String) : Level :=
  if isRoot name then loggers.rootLevel else (loggers.levels.lookup name).getD 0

def setLevel (loggers : Loggers) (name : String) (level : Level) : Loggers :=
  if isRoot name then { loggers with rootLevel := level, decisions := [] }
  else { loggers.know name with levels := (name, level) :: loggers.levels, decisions := [] }

/-- The level that a logger goes by. Every name above it is shorter. -/
def effectiveLevel (loggers : Loggers) (name : String) : Level :=
  ((loggers.lineage (name.length + 1) name).findSome? fun found =>
    loggers.levels.lookup found).getD loggers.rootLevel

/-- Whether a logger lets records of a level pass. -/
def isEnabled (loggers : Loggers) (name : String) (level : Level) : Bool :=
  (loggers.decisions.lookup (name, level)).getD
    (decide (0 < level) && decide (loggers.effectiveLevel name ≤ level))

/-- The loggers once it is decided whether one of them lets records of a level pass. -/
def decideOn (loggers : Loggers) (name : String) (level : Level) : Loggers :=
  let loggers := loggers.know name
  { loggers with decisions := ((name, level), loggers.isEnabled name level) :: loggers.decisions }

/-! ## Delivery -/

/-- Writes the bare message of a serious record on the standard error stream, so that it is not lost
where there is no handler. -/
def writeBare (tracing : Tracing) (record : Record) (output : Output) : Output :=
  if record.level < Level.warning then output
  else
    match BracketLayout.format ⟨BracketLayout.messageLine, BracketLayout.defaultTime⟩ record with
    | .ok line => output.writeConsole (line ++ "\n")
    | .error error => output.writeReport tracing record error

/-- Delivers a record to every handler in turn. -/
def deliver (loggers : Loggers) (record : Record) (output : Output) : Output :=
  if loggers.handlers.isEmpty then writeBare loggers.tracing record output
  else
    loggers.handlers.foldl
      (fun written handler => handler.deliver loggers.tracing record written) output

/-- Logs a record, if its logger lets it pass. -/
def log (loggers : Loggers) (record : Record) (output : Output) : Loggers × Output :=
  let decided := loggers.decideOn record.logger record.level
  if decided.isEnabled record.logger record.level then
    let name := if isRoot record.logger then rootName else record.logger
    (decided, decided.deliver { record with logger := name } output)
  else (decided, output)

end Loggers

end HostResolver.Logging
