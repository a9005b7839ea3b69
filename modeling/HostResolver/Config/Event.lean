import HostResolver.Config.Error
import HostResolver.Servers.Source

/-!
Events that are worth a log record.

This module owns what is reported while configuration files are read, and for each event the logger
under which it is reported, its level and its words. Where the records go is not decided here.
-/

namespace HostResolver.Config

open HostResolver.Servers

/-- Something that happened while configuration was read. -/
inductive Event where
  /-- A path does not lead to a regular file. -/
  | skipped (path : String)
  | parsing (path : String)
  /-- A line asks for something that is not supported. -/
  | unsupported (line : String)
  /-- A section is dropped, since its domain has servers already. -/
  | alreadyMapped (domain : String) (kept discarded : Source)
  /-- An option has a value that is no whole number. -/
  | malformedOption (token : String)
  | loaded (default : Option Source) (overrides : Nat)
  /-- No provider could be built, and the caller goes on without one. -/
  | unusable (resolvConf resolverDir : Option String) (error : ConfigError)

namespace Event

/-- The logger under which an event is reported. -/
def logger : Event → String
  | .skipped _ | .parsing _ | .unsupported _ | .alreadyMapped .. => "unixresolver.parser"
  | .malformedOption _ => "unixresolver.options"
  | .loaded .. | .unusable .. => "unixresolver.provider"

/-- The level of an event: 20 for what the user asked for in vain, 10 for the rest. -/
def level : Event → Int
  | .unsupported _ => 20
  | _ => 10

private def shownPath (path : Option String) : String := path.getD "None"

def message : Event → String
  | .skipped path => s!"Skipping {path}: not a regular file"
  | .parsing path => s!"Parsing resolver configuration {path}"
  | .unsupported line => s!"row type sortlist not supported. ignoring line: {line}"
  | .alreadyMapped domain kept discarded =>
    s!"Domain name {domain} already maps to addresses {kept.shown} so new addresses " ++
      s!"{discarded.shown} will be discarded"
  | .malformedOption token => s!"ignoring malformed resolver option {token}"
  | .loaded default overrides =>
    s!"Resolver configuration loaded: default={shownSource? default}, {overrides} domain " ++
      "override(s)"
  | .unusable resolvConf resolverDir _ =>
    s!"failed to parse {shownPath resolvConf} and/or {shownPath resolverDir}"

/-- The refusal that an event reports beside its words. -/
def failure? : Event → Option ConfigError
  | .unusable _ _ error => some error
  | _ => none

end Event

end HostResolver.Config
