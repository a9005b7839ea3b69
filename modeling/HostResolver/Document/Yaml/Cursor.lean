import HostResolver.Document.Yaml.Character

/-!
Places in the text of a document.

This module owns the place that the reading of tokens has come to: what is still to be read, and how
many characters, lines and columns lie behind. Columns decide the structure of a document, lines and
characters how far apart a key and its colon may stand.
-/

namespace HostResolver.Document.Yaml

/-- A place in a text. -/
structure Cursor where
  /-- What is still to be read. -/
  rest : List Char
  /-- The count of characters before the place. -/
  index : Nat
  /-- The count of lines that ended before the place. -/
  line : Nat
  /-- The count of characters before the place in its line, byte order marks left out. -/
  column : Nat
deriving Repr

namespace Cursor

def start (text : List Char) : Cursor := ⟨text, 0, 0, 0⟩

def advance (cursor : Cursor) : Cursor :=
  match cursor.rest with
  | [] => cursor
  | character :: rest =>
    if isBreak character then ⟨rest, cursor.index + 1, cursor.line + 1, 0⟩
    else if character == byteOrderMark then
      ⟨rest, cursor.index + 1, cursor.line, cursor.column⟩
    else ⟨rest, cursor.index + 1, cursor.line, cursor.column + 1⟩

/-- The place behind the next `count` characters. -/
def skip (cursor : Cursor) : Nat → Cursor
  | 0 => cursor
  | count + 1 => cursor.advance.skip count

/-- The place behind the characters that a reader took, given what the reader left. -/
def leave (cursor : Cursor) (rest : List Char) : Cursor :=
  cursor.skip (cursor.rest.length - rest.length)

/-- The place behind the characters of one kind. -/
def skipWhile (cursor : Cursor) (kind : Char → Bool) : Cursor :=
  cursor.skip (cursor.rest.takeWhile kind).length

/-- The place behind a comment, if one starts here. -/
def skipComment (cursor : Cursor) : Cursor :=
  if cursor.rest.head? == some '#' then cursor.skipWhile fun character => !isBreak character
  else cursor

/-- The place behind spaces and a comment. -/
def skipFiller (cursor : Cursor) : Cursor := (cursor.skipWhile (· == ' ')).skipComment

end Cursor

end HostResolver.Document.Yaml
