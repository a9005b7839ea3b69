import HostResolver.Document.Value
import HostResolver.Text.Blank
import HostResolver.Text.Casing

/-!
Levels of log records.

This module owns the names of levels and the ways in which a level is shown. A level is any whole
number; five of them have names.
-/

namespace HostResolver.Logging

open HostResolver.Document HostResolver.Number HostResolver.Text

/-- The level of a record: the more serious, the greater. -/
abbrev Level := Int

namespace Level

def debug : Level := 10

def info : Level := 20

def warning : Level := 30

def error : Level := 40

def critical : Level := 50

/-- The level of a name in lower case. -/
def named? (name : String) : Option Level :=
  match name with
  | "debug" => some debug
  | "info" => some info
  | "warn" | "warning" => some warning
  | "error" => some error
  | "crit" | "critical" => some critical
  | _ => none

/-- Reads the name of a level without regard to case and to blanks around it. -/
def read? (text : String) : Option Level := named? (lowered (trimmed text))

/-- The level that a value names, or a default if it names none; a value without a text is refused.
-/
def ofValue? (value : Value) (default : Level) : Option Level :=
  value.shown?.map fun text => (read? text).getD default

def name (level : Level) : String :=
  if level = debug then "DEBUG"
  else if level = info then "INFO"
  else if level = warning then "WARNING"
  else if level = error then "ERROR"
  else if level = critical then "CRITICAL"
  else if level = 0 then "NOTSET"
  else s!"Level {shownInt level}"

def tag (level : Level) : String :=
  if level = debug then "[debug]"
  else if level = info then "[info]"
  else if level = warning then "[warn]"
  else if level = error then "[error]"
  else if level = critical then "[crit]"
  else s!"[lvl{shownInt level}]"

end Level

end HostResolver.Logging
