import HostResolver.Config.Directive
import HostResolver.Config.Lines
import HostResolver.Servers.Order

/-!
Refusals of configuration files.

This module owns the causes for which no provider is built from a set of files, and their words.
-/

namespace HostResolver.Config

open HostResolver.Document HostResolver.Servers HostResolver.Text

/-- Why files give no provider. -/
inductive ConfigError where
  | noFiles
  /-- The order of addresses is none of the known ones. -/
  | unknownOrder (given : Value)
  /-- The order of addresses is a value without a text. -/
  | unwritableOrder
  /-- A line of a file is malformed. -/
  | badLine (path : String) (number : Nat) (line : String) (error : LineError)
  /-- A file is not UTF-8; `linesRead` lines were read before that showed. -/
  | undecodable (path : String) (linesRead : Nat) (fault : Utf8.Fault)
  /-- A file gives no lines at all. -/
  | unreadable (error : ReadError)

namespace ConfigError

def message : ConfigError → String
  | .noFiles => "no files to parse"
  | .unknownOrder given => Order.unknown given
  | .unwritableOrder => unwritable
  | .badLine path number line error =>
    s!"error parsing {path} line {number}: {error.message} (value: {line})"
  | .undecodable path linesRead fault =>
    s!"error decoding {path} after line {linesRead}: {fault.message}"
  | .unreadable error => error.message

/-- The name of the kind of a refusal. -/
def kind : ConfigError → String
  | .noFiles | .unknownOrder _ => "ResolverConfigError"
  | .unwritableOrder => "ValueError"
  | .badLine .. | .undecodable .. => "ResolverConfigParseError"
  | .unreadable error => error.kind

/-- The refusal of a value that names no order. -/
def ofOrder (given : Value) : ConfigError :=
  if given.hasText then .unknownOrder given else .unwritableOrder

end ConfigError

end HostResolver.Config
