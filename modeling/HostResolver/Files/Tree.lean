import HostResolver.Files.Path
import HostResolver.Text.Quoted

/-!
Trees of files.

This module owns a tree of files, directories, links and devices as a value, what the program may do
with each of them, and the one way in which every path is followed, whether something is to be read
at it or written. A place in the tree is the list of names that lead to it from the root of all
files; it is neither absolute nor relative, since no link and no step up is left in it.

A name or a path beyond its limit is refused, but a name only where it is looked up: behind a
missing directory nothing is, and where a directory may not be searched nothing is either.
-/

namespace HostResolver.Files

open HostResolver.Text

/-- A place in a tree: the names on the way from the root of all files. -/
abbrev Place := List String

/-- What the program may do with what stands at a place. -/
structure Access where
  reads : Bool
  writes : Bool
  /-- Whether names may be looked up; of use for directories only. -/
  searches : Bool
deriving DecidableEq, Repr

/-- The access to what is not protected. -/
def Access.full : Access := ⟨true, true, true⟩

/-- What stands at a place. -/
inductive Entry where
  | file (bytes : List UInt8) (access : Access)
  | directory (access : Access)
  /-- Another path, absolute or relative to the directory of the link. -/
  | link (target : String)
  /-- It gives bytes, but it is no regular file, and what is written to it is not kept. -/
  | device (bytes : List UInt8) (access : Access)
deriving DecidableEq, Repr

def Entry.isFile : Entry → Bool
  | .file _ _ => true
  | _ => false

/-- A tree of files; its entries stand in the order in which directories list them. Names of entries
hold no slash, are not empty and are neither one point nor two. -/
structure FileTree where
  entries : List (Place × Entry)
  /-- The directory in which the program works. -/
  workplace : Place := []
  /-- The access to the root of all files. -/
  top : Access := .full
deriving DecidableEq, Repr

/-! ## Refusals -/

/-- Why a path cannot be used. -/
inductive FileError where
  | notFound
  | notDirectory
  | isDirectory
  | alreadyExists
  /-- A directory may not be searched, or what the path leads to may not be used so. -/
  | accessDenied
  /-- The path or a name on it is longer than any may be. -/
  | nameTooLong
  | tooManyLinks
  /-- The path holds a NUL character, so no file can have it. -/
  | nulCharacter
deriving DecidableEq, Repr

namespace FileError

/-- The words for a path that cannot be used. -/
def message (error : FileError) (path : String) : String :=
  match error with
  | .notFound => s!"[Errno 2] No such file or directory: {quoted path}"
  | .notDirectory => s!"[Errno 20] Not a directory: {quoted path}"
  | .isDirectory => s!"[Errno 21] Is a directory: {quoted path}"
  | .alreadyExists => s!"[Errno 17] File exists: {quoted path}"
  | .accessDenied => s!"[Errno 13] Permission denied: {quoted path}"
  | .nameTooLong => s!"[Errno 36] File name too long: {quoted path}"
  | .tooManyLinks => s!"[Errno 40] Too many levels of symbolic links: {quoted path}"
  | .nulCharacter => "embedded null byte"

/-- The name of the kind of an error. -/
def kind : FileError → String
  | .notFound => "FileNotFoundError"
  | .notDirectory => "NotADirectoryError"
  | .isDirectory => "IsADirectoryError"
  | .alreadyExists => "FileExistsError"
  | .accessDenied => "PermissionError"
  | .nameTooLong | .tooManyLinks => "OSError"
  | .nulCharacter => "ValueError"

/-- Whether an error says that nothing stands at a path, for who asks what does. -/
def isAbsence : FileError → Bool
  | .notFound | .notDirectory | .tooManyLinks | .nulCharacter => true
  | _ => false

end FileError

/-- A path that cannot be used, as it is shown, and why. -/
structure PathError where
  path : String
  error : FileError
deriving DecidableEq, Repr

/-- The words for a path that cannot be used. -/
def PathError.message (refusal : PathError) : String := refusal.error.message refusal.path

/-- Whether a name has more bytes than a directory takes. -/
def isLongName (name : String) : Bool := decide (255 < name.utf8ByteSize)

/-- Whether a path has more bytes than can be followed. -/
def isLongPath (path : String) : Bool := decide (4095 < path.utf8ByteSize)

/-- Refuses a text that is no path in any tree. -/
def checkPath (text : String) : Except FileError Unit :=
  if text.contains (Char.ofNat 0) then .error .nulCharacter
  else if text.isEmpty then .error .notFound
  else if isLongPath text then .error .nameTooLong
  else .ok ()

namespace FileTree

def empty : FileTree := { entries := [] }

/-- What stands at a place; the root of all files is a directory. -/
def entry? (tree : FileTree) (place : Place) : Option Entry :=
  if place = [] then some (.directory tree.top) else tree.entries.lookup place

/-! ## Walking -/

/-- The place that a name leads to from a directory; links are not followed. An empty name and a
single point stay, and two points go one up, but not beyond the root of all files. -/
def enter (tree : FileTree) (place : Place) (name : String) : Except FileError Place :=
  match tree.entry? place with
  | none => .error .notFound
  | some (.directory access) =>
    if name.isEmpty then .ok place
    else if !access.searches then .error .accessDenied
    else if name = "." then .ok place
    else if name = ".." then .ok place.dropLast
    else if isLongName name then .error .nameTooLong
    else .ok (place ++ [name])
  | some _ => .error .notDirectory

/-- The place from which a path starts. -/
def startOf (text : String) (place : Place) : Place :=
  if text.toList.head? = some '/' then [] else place

/-- Follows names from a place, up to the first link, which `follow` follows together with the names
behind it. Nothing need stand at the place in the end. -/
def descend (tree : FileTree) (follow : Place → List String → Except FileError Place) :
    Place → List String → Except FileError Place
  | place, [] => .ok place
  | place, name :: names =>
    match tree.enter place name with
    | .error error => .error error
    | .ok below =>
      match tree.entry? below with
      | some (.link target) =>
        follow (startOf target below.dropLast) (Path.rawNames target ++ names)
      | _ => descend tree follow below names

/-- Follows names from a place, and as many links as are allowed. -/
def walk (tree : FileTree) : Nat → Place → List String → Except FileError Place
  | 0 => tree.descend fun _ _ => .error .tooManyLinks
  | links + 1 => tree.descend (walk tree links)

/-- The number of links that are followed on the way of one path. -/
def linkLimit : Nat := 40

/-- The place that a path leads to. -/
def locate (tree : FileTree) (text : String) : Except FileError Place :=
  match checkPath text with
  | .error error => .error error
  | .ok _ => tree.walk linkLimit (startOf text tree.workplace) (Path.rawNames text)

/-- The place that a path leads to, and what stands there. -/
def status (tree : FileTree) (text : String) : Except FileError (Place × Entry) :=
  match tree.locate text with
  | .error error => .error error
  | .ok place =>
    match tree.entry? place with
    | none => .error .notFound
    | some entry => .ok (place, entry)

/-! ## Reading -/

/-- What a path leads to; nothing if there is nothing. It may be that this cannot be told. -/
def look (tree : FileTree) (text : String) : Except PathError (Option (Place × Entry)) :=
  match tree.status text with
  | .ok found => .ok (some found)
  | .error error => if error.isAbsence then .ok none else .error ⟨text, error⟩

/-- Whether a path leads to a regular file. -/
def isFile (tree : FileTree) (text : String) : Except PathError Bool :=
  (tree.look text).map fun found => found.any fun standing => standing.2.isFile

/-- The bytes that are read of what stands at a place. -/
def contents : Entry → Except FileError (List UInt8)
  | .file bytes access => if access.reads then .ok bytes else .error .accessDenied
  | .device bytes access => if access.reads then .ok bytes else .error .accessDenied
  | .directory access => .error (if access.reads then .isDirectory else .accessDenied)
  | .link _ => .error .tooManyLinks

/-- Opens what a path leads to, and gives its bytes. -/
def read (tree : FileTree) (text : String) : Except PathError (List UInt8) :=
  (tree.status text >>= fun found => contents found.2).mapError fun error => ⟨text, error⟩

/-- The bytes of the regular file at a path; nothing if there is none. -/
def bytes? (tree : FileTree) (path : Path) : Except PathError (Option (List UInt8)) :=
  match tree.isFile path.text with
  | .error refusal => .error refusal
  | .ok false => .ok none
  | .ok true => (tree.read path.text).map some

/-! ### Small lemmas -/

variable {tree : FileTree} {path : Path}

theorem bytes?_of_isFile (isFile : tree.isFile path.text = .ok true) :
    tree.bytes? path = (tree.read path.text).map some := by
  rw [bytes?, isFile]

theorem bytes?_eq_none_iff :
    tree.bytes? path = .ok none ↔ tree.isFile path.text = .ok false := by
  cases counts : tree.isFile path.text with
  | error refusal => simp [bytes?, counts]
  | ok isFile =>
      cases isFile with
      | false => simp [bytes?, counts]
      | true =>
          rw [bytes?_of_isFile counts]
          cases opened : tree.read path.text with
          | error refusal => exact iff_of_false nofun nofun
          | ok bytes => exact iff_of_false nofun nofun

theorem bytes?_eq_some_iff {bytes : List UInt8} :
    tree.bytes? path = .ok (some bytes) ↔
      tree.isFile path.text = .ok true ∧ tree.read path.text = .ok bytes := by
  cases counts : tree.isFile path.text with
  | error refusal => simp [bytes?, counts]
  | ok isFile =>
      cases isFile with
      | false => simp [bytes?, counts]
      | true =>
          rw [bytes?_of_isFile counts]
          cases opened : tree.read path.text with
          | error refusal => exact iff_of_false nofun fun both => nomatch both.2
          | ok found =>
              refine ⟨fun same => ⟨rfl, ?_⟩, fun both => ?_⟩
              · rw [Option.some.inj (Except.ok.inj same)]
              · rw [Except.ok.inj both.2]
                rfl

theorem bytes?_eq_error_iff {refusal : PathError} :
    tree.bytes? path = .error refusal ↔
      tree.isFile path.text = .error refusal ∨
        (tree.isFile path.text = .ok true ∧ tree.read path.text = .error refusal) := by
  cases counts : tree.isFile path.text with
  | error other => simp [bytes?, counts]
  | ok isFile =>
      cases isFile with
      | false => simp [bytes?, counts]
      | true =>
          rw [bytes?_of_isFile counts]
          cases opened : tree.read path.text with
          | ok bytes =>
              exact iff_of_false nofun fun either => either.elim nofun fun both => nomatch both.2
          | error other =>
              refine ⟨fun same => Or.inr ⟨rfl, ?_⟩, fun either => ?_⟩
              · rw [Except.error.inj same]
              · rcases either with impossible | ⟨_, same⟩
                · exact nomatch impossible
                · rw [Except.error.inj same]
                  rfl

/-! ## Listing -/

/-- The names of all entries of the directory at a place, in the order of the tree. -/
def entryNames (tree : FileTree) (place : Place) : List String :=
  tree.entries.filterMap fun entry =>
    if entry.1.dropLast = place then entry.1.getLast? else none

/-- The names of those entries of a directory that are regular files, or lead to some, in the order
given. The first entry of which this cannot be told is refused. -/
def filesAmong (tree : FileTree) (directory : Path) :
    List String → Except PathError (List String)
  | [] => .ok []
  | name :: names =>
    match tree.isFile (directory.child name).text with
    | .error refusal => .error refusal
    | .ok counts =>
      (filesAmong tree directory names).map fun others =>
        if counts then name :: others else others

/-- Names in increasing order by code point. -/
def sortedNames (names : List String) : List String :=
  names.mergeSort fun left right => decide (left ≤ right)

/-- The paths of the regular files in a directory in increasing order of their names; none if there
is no such directory. -/
def listFiles (tree : FileTree) (directory : Path) : Except PathError (List Path) :=
  match tree.look directory.text with
  | .error refusal => .error refusal
  | .ok (some (place, .directory access)) =>
    if access.reads then
      (tree.filesAmong directory (tree.entryNames place)).map fun names =>
        (sortedNames names).map directory.child
    else .error ⟨directory.text, .accessDenied⟩
  | .ok _ => .ok []

end FileTree

end HostResolver.Files
