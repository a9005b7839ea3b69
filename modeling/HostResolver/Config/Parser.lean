import HostResolver.Config.Section

/-!
Reading of configuration files into a map of domains.

This module owns the reading of one file and of several files in turn. What is not a regular file
is skipped, but a path of which that cannot be told stops the reading, and so does a file that
cannot be opened. A malformed line stops the reading, and so does a fault in the encoding, which
shows only behind the lines that were decoded before it. The first section of a file belongs to the
name of the file.
-/

namespace HostResolver.Config

open HostResolver.Document HostResolver.Files HostResolver.Servers HostResolver.Text

namespace Book

/-- Reads the decoded text of a file that is shown as `path` and has the given name. -/
def readText (book : Book) (order : Order) (path name : String) (reading : Reading) :
    Book × Option ConfigError :=
  let lines := reading.lines
  let read := Progress.readLines order 1 ⟨.start name, book⟩ lines
  match read.2 with
  | some refusal =>
    (read.1.book,
      some (.badLine path refusal.number (String.ofList refusal.line) refusal.error))
  | none =>
    match reading.fault with
    | some fault => (read.1.book, some (.undecodable path lines.length fault))
    | none => ((read.1.commit order).book, none)

def readFile (book : Book) (tree : FileTree) (order : Order) (path : Path) :
    Book × Option ConfigError :=
  match tree.isFile path.text with
  | .error error => (book, some (.unreadable (.inaccessible error)))
  | .ok false => (book.note (.skipped path.text), none)
  | .ok true =>
    let noted := book.note (.parsing path.text)
    match tree.read path.text with
    | .error error => (noted, some (.unreadable (.inaccessible error)))
    | .ok bytes => noted.readText order path.text path.baseName (.ofBytes bytes)

/-! ### Small lemmas -/

variable {book : Book} {tree : FileTree} {order : Order} {path : Path}

theorem readFile_of_bytes {bytes : List UInt8} (present : tree.bytes? path = .ok (some bytes)) :
    book.readFile tree order path =
      (book.note (.parsing path.text)).readText order path.text path.baseName (.ofBytes bytes) := by
  obtain ⟨isFile, opened⟩ := FileTree.bytes?_eq_some_iff.1 present
  rw [readFile, isFile]
  simp only [opened]

theorem readFile_of_none (absent : tree.bytes? path = .ok none) :
    book.readFile tree order path = (book.note (.skipped path.text), none) := by
  rw [readFile, FileTree.bytes?_eq_none_iff.1 absent]

/-- A file that cannot be opened is reported before it is refused. -/
theorem exists_readFile_of_error (book : Book) (order : Order) {refusal : PathError}
    (refused : tree.bytes? path = .error refusal) :
    ∃ events : List Event, (∀ event ∈ events, event = .parsing path.text) ∧
      book.readFile tree order path =
        (⟨book.map, book.events ++ events⟩, some (.unreadable (.inaccessible refusal))) := by
  rcases FileTree.bytes?_eq_error_iff.1 refused with unseen | ⟨isFile, unopened⟩
  · refine ⟨[], by simp, ?_⟩
    rw [readFile, unseen, List.append_nil]
  · refine ⟨[.parsing path.text], by simp, ?_⟩
    rw [readFile, isFile]
    simp only [unopened, note]

/-! ### Files in turn -/

/-- Reads files in turn, up to the first one that cannot be read. -/
def readFiles (book : Book) (tree : FileTree) (order : Order) :
    List Path → Book × Option ConfigError
  | [] => (book, none)
  | path :: paths =>
    match book.readFile tree order path with
    | (later, none) => later.readFiles tree order paths
    | (later, some error) => (later, some error)

end Book

/-- What is read of files, and what happened on the way: the map, or why there is none. -/
def parseFiles (tree : FileTree) (order : Value) (paths : List Path) :
    Except ConfigError DomainMap × List Event :=
  match Order.ofValue? order with
  | none => (.error (.ofOrder order), [])
  | some order =>
    match Book.empty.readFiles tree order paths with
    | (book, none) => (.ok book.map, book.events)
    | (book, some error) => (.error error, book.events)

end HostResolver.Config
