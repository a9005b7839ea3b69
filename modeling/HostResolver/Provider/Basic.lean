import HostResolver.Config.Parser
import HostResolver.Config.SearchList

/-!
Providers: which servers to ask about a host.

This module owns the provider as a value and its building from a primary file and override files.
Sections of override files win over those of the primary file. The section of the primary file that
belongs to the name of the file gives the default servers; override files alone give none.
-/

namespace HostResolver.Provider

open HostResolver.Config HostResolver.Document HostResolver.Files HostResolver.Servers
  HostResolver.Text

/-- The servers for all hosts, the servers for the hosts of some domains, and what else the primary
file says. -/
structure ServerProvider where
  default : Option Source
  overrides : DomainMap
  options : Options
  searchDomains : List String

/-- What a provider is built from. -/
structure Inputs where
  primary : Option Path
  overrideFiles : List Path
  order : Value
  /-- The options that the environment sets. -/
  environmentOptions : Option String

/-- The result of reading, and what happened on the way. -/
abbrev Noted (α : Type) := Except ConfigError α × List Event

/-- The default source and the overrides. -/
structure Sources where
  default : Option Source
  overrides : DomainMap

namespace Sources

/-- Takes the default source out of the map of the primary file. -/
def ofPrimary (name : String) (map : DomainMap) : Sources := ⟨map.get? name, map.erase name⟩

/-- Reads the override files and then the primary file, whose sections are filed behind those of the
override files. -/
def read (tree : FileTree) (inputs : Inputs) : Noted Sources :=
  match inputs.primary with
  | none =>
    let read := parseFiles tree inputs.order inputs.overrideFiles
    (read.1.map fun map => ⟨none, map⟩, read.2)
  | some primary =>
    if inputs.overrideFiles.isEmpty then
      let read := parseFiles tree inputs.order [primary]
      (read.1.map (ofPrimary primary.baseName), read.2)
    else
      match parseFiles tree inputs.order inputs.overrideFiles with
      | (.error error, events) => (.error error, events)
      | (.ok overrides, events) =>
        match parseFiles tree inputs.order [primary] with
        | (.error error, more) => (.error error, events ++ more)
        | (.ok map, more) =>
          let sources := ofPrimary primary.baseName map
          let book := Book.fileAll ⟨overrides, events ++ more⟩ sources.overrides.entries
          (.ok ⟨sources.default, book.map⟩, book.events)

end Sources

namespace ServerProvider

/-- The options and the search list of the primary file. -/
def readPrimary (tree : FileTree) (inputs : Inputs) :
    Except ReadError (Options × List Event × List String) :=
  match inputs.primary with
  | none => .ok ({}, [], [])
  | some path => do
    let options ← Options.ofFile tree path inputs.environmentOptions
    let searchDomains ← SearchList.ofFile tree path
    return (options.1, options.2, searchDomains)

def build (tree : FileTree) (inputs : Inputs) : Noted ServerProvider :=
  if inputs.primary.isNone && inputs.overrideFiles.isEmpty then (.error .noFiles, [])
  else
    match Sources.read tree inputs with
    | (.error error, events) => (.error error, events)
    | (.ok sources, events) =>
      match readPrimary tree inputs with
      | .error error => (.error (.unreadable error), events)
      | .ok (options, optionEvents, searchDomains) =>
        let provider : ServerProvider :=
          { default := sources.default
            overrides := sources.overrides
            options := options
            searchDomains := searchDomains }
        (.ok provider,
          events ++ optionEvents ++
            [.loaded sources.default sources.overrides.entries.length])

/-- The override files in a directory, if one is given. -/
def overrideFiles (tree : FileTree) : Option Path → Except PathError (List Path)
  | none => .ok []
  | some directory => tree.listFiles directory

/-- Builds a provider from a primary file and the files of a directory. -/
def ofPaths (tree : FileTree) (primary directory : Option Path) (order : Value)
    (environmentOptions : Option String) : Noted ServerProvider :=
  match overrideFiles tree directory with
  | .error error => (.error (.unreadable (.inaccessible error)), [])
  | .ok files =>
    build tree
      { primary := primary
        overrideFiles := files
        order := order
        environmentOptions := environmentOptions }

def shown (provider : ServerProvider) : String :=
  let domains := ", ".intercalate (provider.overrides.sortedDomains.map Text.quoted)
  s!"UnixResolverDnsServerAddressStreamProvider(default={shownSource? provider.default}, " ++
    s!"domains=[{domains}])"

end ServerProvider

end HostResolver.Provider
