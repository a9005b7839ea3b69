import HostResolver.Address.Nameserver

/-!
Lines of configuration files.

This module owns what one line asks for. The first word is the label; `nameserver`, `domain` and
`port` take the second word as their argument and ignore the others; `sortlist` is known but not
supported; any other label is ignored.

It does not own the `options` and `search` lines, which `HostResolver.Config.Options` and
`HostResolver.Config.SearchList` read by themselves.
-/

namespace HostResolver.Config

open HostResolver.Address HostResolver.Text

/-- What a line asks for. -/
inductive Directive where
  /-- Adds a server to the section. -/
  | nameserver (value : List Char)
  /-- Ends the section and begins the one of a domain. -/
  | domain (name : List Char)
  /-- Sets the port of the servers that name none. -/
  | port (text : List Char)
  /-- Asks for an order of addresses, which is not supported. -/
  | sortlist
  /-- Asks for nothing that concerns servers. -/
  | other
deriving DecidableEq, Repr

/-- Why a line is refused. -/
inductive LineError where
  /-- The line is blank, so it has no label. -/
  | blank
  /-- The label needs an argument and has none. -/
  | missingArgument (label : String)
  | nameserver (error : NameserverError)
  | port (error : PortError)

/-- The words for a refusal; a blank line is refused without any. -/
def LineError.message : LineError → String
  | .blank => ""
  | .missingArgument label => s!"missing argument for label {label}"
  | .nameserver error => error.message
  | .port error => error.message

namespace Directive

/-- The directive of a label that takes an argument. -/
def withArgument? (label : String) : Option (List Char → Directive) :=
  if label = "nameserver" then some .nameserver
  else if label = "domain" then some .domain
  else if label = "port" then some .port
  else none

def ofLine (line : List Char) : Except LineError Directive :=
  match firstWord? line with
  | none => .error .blank
  | some (label, rest) =>
    let label := String.ofList label
    match withArgument? label with
    | some directive =>
      match firstWord? rest with
      | none => .error (.missingArgument label)
      | some (argument, _) => .ok (directive argument)
    | none => .ok (if label = "sortlist" then .sortlist else .other)

end Directive

/-- The text of a line that counts: trimmed, and neither blank nor a comment. -/
def significant? (line : List Char) : Option (List Char) :=
  match trim line with
  | [] => none
  | '#' :: _ => none
  | ';' :: _ => none
  | text => some text

end HostResolver.Config
