import HostResolver.Document.Yaml.Reading
import HostResolver.Files.Tree
import HostResolver.Settings.Basic
import HostResolver.Text.Reading

/-!
Where settings come from.

This module owns the collecting of values for the settings: first those of a settings file, either
at the root of its mapping or in its `resolver` section, then those of the environment, which win.
The `logging` entry counts at the root before the one in the section. A file that cannot be read, is
no document or has something else where a mapping belongs gives no settings at all.
-/

namespace HostResolver.Settings

open HostResolver.Document HostResolver.Document.Yaml HostResolver.Files HostResolver.Text

/-- What the environment says about the settings. -/
structure Overrides where
  resolvConf : Option String
  resolverDir : Option String
  addressOrder : Option String
  logLevel : Option String
deriving DecidableEq, Repr

/-- What the variables of an environment say about the settings. -/
def Overrides.ofEnvironment (lookup : String → Option String) : Overrides where
  resolvConf := lookup "UNIXRESOLVER_RESOLV_CONF"
  resolverDir := lookup "UNIXRESOLVER_RESOLVER_DIR"
  addressOrder := lookup "UNIXRESOLVER_ADDRESS_ORDER"
  logLevel := lookup "UNIXRESOLVER_LOG_LEVEL"

/-- Why there are no settings. -/
inductive SettingsError where
  | unreadable (error : PathError)
  | undecodable (fault : Utf8.Fault)
  /-- The file is no document with a value. -/
  | notDocument (error : YamlError)
  /-- The root of the document is no mapping. -/
  | rootNotMapping
  /-- A section of the document is no mapping. -/
  | sectionNotMapping (name : String)
  /-- A level is to be set where the `logging` value is no mapping. -/
  | noLogging
  /-- Values are not taken for settings. -/
  | invalid (complaints : List Complaint)

/-- The words for settings that are refused; none where the cause has no words of its own. -/
def SettingsError.message? : SettingsError → Option String
  | .unreadable error => some error.message
  | .undecodable fault => some fault.message
  | .notDocument error => error.message?
  | .rootNotMapping => some "Configuration root must be a mapping"
  | .sectionNotMapping name => some s!"config.{name} must be a mapping when present"
  | .noLogging => none
  | .invalid _ => some "Invalid resolver settings"

/-! ## Values of a file -/

def mappingOr (error : SettingsError) : Value → Except SettingsError Entries
  | .mapping entries => .ok entries
  | _ => .error error

/-- Whether an entry is one of the settings. -/
def isSetting (entry : Value × Value) : Bool :=
  match entry.1 with
  | .text name => Field.all.any (·.name == name)
  | _ => false

/-- The values for settings in a document. A document that holds nothing gives none. -/
def valuesOfDocument (root : Value) : Except SettingsError Entries := do
  let entries ← if root.isOn then mappingOr .rootNotMapping root else pure []
  let resolver ←
    match entries.get? "resolver" with
    | some resolver => mappingOr (.sectionNotMapping "resolver") resolver
    | none => pure entries
  let values := resolver.filter isSetting
  let logging := Field.logging.name
  match (entries.get? logging).or (resolver.get? logging) with
  | none | some .null => return values
  | some found =>
    let found ← mappingOr (.sectionNotMapping logging) found
    return Entries.set values (.text logging) (.mapping found)

/-- The values for settings in the file at a path. -/
def valuesOfFile (tree : FileTree) (path : String) : Except SettingsError Entries := do
  match tree.read path with
  | .error error => throw (.unreadable error)
  | .ok bytes =>
    let reading := Reading.ofBytes bytes
    match reading.fault with
    | some fault => throw (.undecodable fault)
    | none =>
      match Yaml.read (withLineFeeds reading.text) with
      | .error error => throw (.notDocument error)
      | .ok root => valuesOfDocument root

/-! ## Values of the environment -/

/-- Sets a value that the environment gives. -/
def override (field : Field) (given : Option String) (values : Entries) : Entries :=
  match given with
  | none => values
  | some text => Entries.set values (.text field.name) (.text text)

/-- Sets the level among the values for logging. An empty level counts as absent. -/
def overrideLevel (level : Option String) (values : Entries) : Except SettingsError Entries := do
  match level with
  | none | some "" => return values
  | some level =>
    let logging := Field.logging.name
    let found ← mappingOr .noLogging ((values.get? logging).getD (.mapping []))
    let levelled := Entries.set found (.text "level") (.text level)
    return Entries.set values (.text logging) (.mapping levelled)

/-- The values with those that the environment gives. -/
def Overrides.apply (overrides : Overrides) (values : Entries) : Except SettingsError Entries :=
  overrideLevel overrides.logLevel
    (override .addressOrder overrides.addressOrder
      (override .resolverDir overrides.resolverDir
        (override .resolvConf overrides.resolvConf values)))

/-- Loads the settings from the file at a path, if one is given, and from the environment. -/
def ResolverSettings.load (tree : FileTree) (path : Option String) (overrides : Overrides) :
    Except SettingsError ResolverSettings := do
  let values ←
    match path with
    | none => pure []
    | some path => valuesOfFile tree path
  let values ← overrides.apply values
  (ResolverSettings.validate values).mapError .invalid

end HostResolver.Settings
