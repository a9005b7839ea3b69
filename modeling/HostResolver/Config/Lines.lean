import HostResolver.Files.Tree
import HostResolver.Text.Reading

/-!
Lines of configuration files.

This module owns the reading of all lines of a file at once, for readers that do not care where in
the file something is wrong, and the causes for which a file gives no lines.
-/

namespace HostResolver.Config

open HostResolver.Files HostResolver.Text

/-- Why a file gives no lines. -/
inductive ReadError where
  /-- It cannot be told what stands at a path, or it cannot be opened. -/
  | inaccessible (error : PathError)
  | undecodable (fault : Utf8.Fault)

namespace ReadError

/-- The words for a file without lines. -/
def message : ReadError → String
  | .inaccessible error => error.message
  | .undecodable fault => fault.message

/-- The name of the kind of an error. -/
def kind : ReadError → String
  | .inaccessible error => error.error.kind
  | .undecodable _ => "UnicodeDecodeError"

end ReadError

/-- The lines of the file at a path; none if there is no regular file. -/
def linesAt (tree : FileTree) (path : Path) : Except ReadError (List (List Char)) :=
  match tree.bytes? path with
  | .error error => .error (.inaccessible error)
  | .ok none => .ok []
  | .ok (some bytes) =>
    let reading := Reading.ofBytes bytes
    match reading.fault with
    | some fault => .error (.undecodable fault)
    | none => .ok reading.lines

end HostResolver.Config
