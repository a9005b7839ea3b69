import HostResolver.Provider.Session
import HostResolver.Settings.Basic

/-!
Best-effort start.

This module owns the start that never fails: whatever goes wrong, and also when no server turns up,
the caller is left with its own choice of servers. A start from settings first puts home directories
where their paths ask for them, and that can fail: a user whose name holds a NUL character cannot be
looked up.
-/

namespace HostResolver.Provider

open HostResolver.Config HostResolver.Document HostResolver.Files HostResolver.Servers
  HostResolver.Settings

/-- What a best-effort start gives. -/
inductive Started where
  /-- No server is known, so the caller's own choice stands. -/
  | noop
  /-- A provider that knows a server, and its session. -/
  | active (provider : ServerProvider) (session : Session)

/-- Starts from a primary file and a directory of override files. -/
def startSilently (tree : FileTree) (primary directory : Option String) (order : Value)
    (environmentOptions : Option String) (shuffles : Nat → Shuffle) : Started × List Event :=
  match ServerProvider.ofPaths tree (primary.map Path.ofText) (directory.map Path.ofText) order
      environmentOptions with
  | (.error error, events) => (.noop, events ++ [.unusable primary directory error])
  | (.ok provider, events) =>
    match Session.start.mayOverride shuffles provider with
    | (true, session) => (.active provider session, events)
    | (false, _) => (.noop, events)

/-- A path, unless it is empty. -/
def nonEmpty? (text : String) : Option String := if text.isEmpty then none else some text

/-- The path that a setting stands for, with a home directory where it asks for one. -/
def expandSetting (homes : Homes) (setting : Option String) : Except PathError (Option String) :=
  match setting.bind nonEmpty? with
  | none => .ok none
  | some text =>
    if (homeOwner? text).any fun user => user.contains (Char.ofNat 0) then
      .error ⟨text, .nulCharacter⟩
    else .ok (nonEmpty? (expandHome homes text))

/-- Starts from the files that settings name. -/
def startFromSettings (tree : FileTree) (homes : Homes) (settings : ResolverSettings)
    (environmentOptions : Option String) (shuffles : Nat → Shuffle) :
    Except PathError (Started × List Event) :=
  match expandSetting homes settings.resolvConf, expandSetting homes settings.resolverDir with
  | .error error, _ => .error error
  | .ok _, .error error => .error error
  | .ok primary, .ok directory =>
    .ok (startSilently tree primary directory (.text settings.addressOrder.name) environmentOptions
      shuffles)

end HostResolver.Provider
