import HostResolver.Config.DomainMap
import HostResolver.Config.Event

/-!
Sections of configuration files.

This module owns the reading of the lines of one file into sections: the servers that stand before
the first `domain` line belong to the name that the section starts with, and those behind a `domain`
line to its domain. A section ends at the next `domain` line and at the end of the file; if it has
servers it is filed unless its domain has servers already. The port in use carries over from section
to section.
-/

namespace HostResolver.Config

open HostResolver.Address HostResolver.Document HostResolver.Servers HostResolver.Text

/-- What is filed so far, and what happened on the way. -/
structure Book where
  map : DomainMap
  events : List Event

namespace Book

def empty : Book := ⟨.empty, []⟩

def note (book : Book) (event : Event) : Book := ⟨book.map, book.events ++ [event]⟩

/-- Files a source under a domain unless the domain has one already, which is noted. -/
def file (book : Book) (domain : String) (source : Source) : Book :=
  match book.map.get? domain with
  | some kept => book.note (.alreadyMapped domain kept source)
  | none => ⟨book.map.insertIfAbsent domain source, book.events⟩

def fileAll (book : Book) (entries : List (String × Source)) : Book :=
  entries.foldl (fun book entry => book.file entry.1 entry.2) book

end Book

/-- The section that is being read: its domain, the port of servers that name none, and its servers
so far. -/
structure Draft where
  domain : String
  port : Value
  servers : List Endpoint

namespace Draft

/-- The section at the start of a file, which belongs to the name of the file. -/
def start (name : String) : Draft := ⟨name, .int dnsPort.val, []⟩

end Draft

/-- Where the reading of a file stands. -/
structure Progress where
  draft : Draft
  book : Book

namespace Progress

/-- Files the section if it has servers, and begins another one under the same domain. -/
def commit (progress : Progress) (order : Order) : Progress :=
  let draft := progress.draft
  if draft.servers.isEmpty then progress
  else
    { draft := ⟨draft.domain, draft.port, []⟩
      book := progress.book.file draft.domain (.ofServers order draft.servers) }

def enter (progress : Progress) (domain : String) : Progress :=
  ⟨⟨domain, progress.draft.port, progress.draft.servers⟩, progress.book⟩

/-- Does what a directive of a line asks for. -/
def apply (progress : Progress) (order : Order) (line : List Char) :
    Directive → Except LineError Progress
  | .nameserver value =>
    match Nameserver.readEndpoint value progress.draft.port with
    | .error error => .error (.nameserver error)
    | .ok server =>
      let draft := progress.draft
      .ok ⟨⟨draft.domain, draft.port, draft.servers ++ [server]⟩, progress.book⟩
  | .domain name => .ok ((progress.commit order).enter (String.ofList name))
  | .port text =>
    match Port.read text with
    | .error error => .error (.port error)
    | .ok port =>
      let draft := progress.draft
      .ok ⟨⟨draft.domain, .int port.val, draft.servers⟩, progress.book⟩
  | .sortlist => .ok ⟨progress.draft, progress.book.note (.unsupported (String.ofList line))⟩
  | .other => .ok progress

def readLine (progress : Progress) (order : Order) (line : List Char) :
    Except LineError Progress :=
  match Directive.ofLine line with
  | .error error => .error error
  | .ok directive => progress.apply order line directive

/-- A line that was refused, with its number. -/
structure Refusal where
  number : Nat
  line : List Char
  error : LineError

/-- Reads lines, of which the first has the given number, up to the first one that is refused. -/
def readLines (order : Order) (number : Nat) (progress : Progress) :
    List (List Char) → Progress × Option Refusal
  | [] => (progress, none)
  | line :: lines =>
    match significant? line with
    | none => readLines order (number + 1) progress lines
    | some text =>
      match progress.readLine order text with
      | .error error => (progress, some ⟨number, text, error⟩)
      | .ok later => readLines order (number + 1) later lines

end Progress

end HostResolver.Config
