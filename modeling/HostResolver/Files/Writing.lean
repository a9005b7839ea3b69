import HostResolver.Files.Tree

/-!
Files that are written.

This module owns the changes of a tree: directories that are made one below the other, files that
are opened for writing at their end, and what is written there. Whatever was made before something
went wrong stays.
-/

namespace HostResolver.Files

namespace FileTree

/-- Puts an entry at a place, in the place of an older one if there is one. -/
def put (tree : FileTree) (place : Place) (entry : Entry) : FileTree :=
  if (tree.entries.lookup place).isSome then
    { tree with
      entries := tree.entries.map fun old => if old.1 = place then (place, entry) else old }
  else { tree with entries := tree.entries ++ [(place, entry)] }

/-- Whether entries may be made in the directory at a place. -/
def takesEntries (tree : FileTree) (place : Place) : Bool :=
  match tree.entry? place with
  | some (.directory access) => access.writes
  | _ => false

/-- The absolute path that a text means by itself, seen from a working directory: two points take
the name before them away, whatever stands there. -/
def absolutePath (workplace : Place) (text : String) : Path :=
  let path := Path.ofText text
  let start := if path.isAbsolute then [] else workplace
  { root := if path.isAbsolute then path.root else "/"
    names := path.names.foldl (fun names name =>
      if name = ".." then names.dropLast else names ++ [name]) start }

/-- Makes the directory that a path leads to; the last name on it is not followed. -/
def makeDirectory (tree : FileTree) (text : String) : Except FileError FileTree := do
  checkPath text
  let names := Path.rawNames text
  let above ← tree.walk linkLimit (startOf text tree.workplace) names.dropLast
  let place ← tree.enter above (names.getLast?.getD "")
  if (tree.entry? place).isSome then throw .alreadyExists
  if !tree.takesEntries above then throw .accessDenied
  return tree.put place (.directory .full)

/-- Whether a path leads to a directory. -/
def isDirectory (tree : FileTree) (text : String) : Bool :=
  match tree.status text with
  | .ok (_, .directory _) => true
  | _ => false

/-- Whether a path is known to lead somewhere. -/
def leads (tree : FileTree) (text : String) : Bool := (tree.status text).isOk

/-- Makes the directory that a path leads to, unless there is one already. -/
def ensureDirectory (tree : FileTree) (text : String) : FileTree × Option PathError :=
  match tree.makeDirectory text with
  | .ok later => (later, none)
  | .error error => (tree, if tree.isDirectory text then none else some ⟨text, error⟩)

/-- Makes the directory with the given names below a root, the last name first, and the missing ones
above it. That one above is in the way of itself is passed over, since the next one tells more. -/
def makeDirectories (tree : FileTree) (root : String) :
    List String → FileTree × Option PathError
  | [] => (tree, none)
  | name :: above =>
    let made :=
      if tree.leads (⟨root, above.reverse⟩ : Path).text then (tree, none)
      else makeDirectories tree root above
    if made.2.any fun refusal => refusal.error != .alreadyExists then made
    else made.1.ensureDirectory (⟨root, (name :: above).reverse⟩ : Path).text

/-- Opens the file that a path leads to for writing at its end, and makes it if it is missing; gives
its place. -/
def openForAppend (tree : FileTree) (text : String) : Except FileError (Place × FileTree) :=
  match tree.locate text with
  | .error error => .error error
  | .ok place =>
    match tree.entry? place with
    | some (.directory _) => .error .isDirectory
    | some (.link _) => .error .tooManyLinks
    | some (.file _ access) =>
      if access.writes then .ok (place, tree) else .error .accessDenied
    | some (.device _ access) =>
      if access.writes then .ok (place, tree) else .error .accessDenied
    | none =>
      if tree.takesEntries place.dropLast then .ok (place, tree.put place (.file [] .full))
      else .error .accessDenied

/-- Opens the file at an absolute path for writing at its end, behind making the directories above
it. The files are given as they are then, also where something went wrong. -/
def openLogFile (tree : FileTree) (path : Path) : Except PathError Place × FileTree :=
  match tree.makeDirectories path.root path.names.dropLast.reverse with
  | (made, some refusal) => (.error refusal, made)
  | (made, none) =>
    match made.openForAppend path.text with
    | .error error => (.error ⟨path.text, error⟩, made)
    | .ok (place, later) => (.ok place, later)

/-- Writes at the end of the file at a place, if there is one. -/
def append (tree : FileTree) (place : Place) (bytes : List UInt8) : FileTree :=
  match tree.entry? place with
  | some (.file old access) => tree.put place (.file (old ++ bytes) access)
  | _ => tree

end FileTree

end HostResolver.Files
