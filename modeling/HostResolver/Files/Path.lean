import HostResolver.Text.Field

/-!
Paths.

This module owns paths in the form in which they are shown and walked: repeated slashes, single
points and a slash at the end are gone, while two points stay, since only the files can tell where
they lead.
-/

namespace HostResolver.Files

open HostResolver.Text

/-- A path: what it starts from, and the names on the way. -/
structure Path where
  /-- One slash for the root of all files, two where exactly two are written, none otherwise. -/
  root : String
  names : List String
deriving DecidableEq, Repr

namespace Path

/-- The names in a text between slashes, empty ones and single points included. -/
def rawNames (text : String) : List String := (fields '/' text.toList).map String.ofList

/-- Whether a name leads somewhere else than where it stands. -/
def isStep (name : String) : Bool := name != "" && name != "."

def ofText (text : String) : Path where
  root :=
    match text.toList with
    | '/' :: '/' :: '/' :: _ => "/"
    | '/' :: '/' :: _ => "//"
    | '/' :: _ => "/"
    | _ => ""
  names := (rawNames text).filter isStep

/-- The text of a path; the place itself is a point. -/
def text (path : Path) : String :=
  if path.root.isEmpty && path.names.isEmpty then "."
  else path.root ++ "/".intercalate path.names

/-- The last name of a path, empty if there is none. -/
def baseName (path : Path) : String := path.names.getLast?.getD ""

/-- The path of an entry of a directory. -/
def child (path : Path) (name : String) : Path := ⟨path.root, path.names ++ [name]⟩

/-- Whether a path starts from the root of all files. -/
def isAbsolute (path : Path) : Bool := !path.root.isEmpty

end Path

/-- The home directories of users by name. The user who asks has the empty name. -/
abbrev Homes := String → Option String

/-- The user whose home directory a text asks for: the name behind a tilde at the start. -/
def homeOwner? (text : String) : Option String :=
  match text.toList with
  | '~' :: characters => some (String.ofList (characters.takeWhile (· != '/')))
  | _ => none

/-- Puts a home directory in the place of a tilde at the start of a text and the name of a user
behind it. The name of no user stays, with its tilde. -/
def expandHome (homes : Homes) (text : String) : String :=
  match text.toList with
  | '~' :: characters =>
    let name := characters.takeWhile (· != '/')
    match homes (String.ofList name) with
    | none => text
    | some home =>
      let kept := (home.toList.reverse.dropWhile (· == '/')).reverse
      let expanded := kept ++ characters.drop name.length
      if expanded.isEmpty then "/" else String.ofList expanded
  | _ => text

end HostResolver.Files
