/-!
Characters of a YAML document.

This module owns the classes of characters that decide where a token of a document starts and ends.
What stands behind the last character counts with the line ends. It also owns the marker lines,
since all readers of scalars stop at them.

It does not own carriage returns: the text of a document has line feeds in their place.
-/

namespace HostResolver.Document.Yaml

/-- The byte order mark, which takes up no column. -/
def byteOrderMark : Char := Char.ofNat 0xFEFF

/-- Whether a character may stand in a document at all. -/
def isAllowed (character : Char) : Bool :=
  let code := character.toNat
  code == 0x09 || code == 0x0A || code == 0x0D || (0x20 ≤ code && code ≤ 0x7E) || code == 0x85 ||
    (0xA0 ≤ code && code ≤ 0xFFFD) || 0x10000 ≤ code

/-- Line ends: line feed, next line, and the line and paragraph separators. -/
def isBreak (character : Char) : Bool :=
  character == '\n' || character.toNat == 0x85 || character.toNat == 0x2028 ||
    character.toNat == 0x2029

/-- A line end as it counts in a scalar: the two separators stand for themselves and the others for
a line feed. -/
def breakValue (character : Char) : Char :=
  if character.toNat == 0x2028 || character.toNat == 0x2029 then character else '\n'

def isSpaceOrTab (character : Char) : Bool := character == ' ' || character == '\t'

/-- Whether a text ends, or a line of it. -/
def endsLine (text : List Char) : Bool := text.head?.all isBreak

/-- Whether a text starts with a gap: it ends, or with a line end, a space or a tab. -/
def startsGap (text : List Char) : Bool :=
  text.head?.all fun character => isBreak character || isSpaceOrTab character

/-- Whether a text starts with a space or ends, or a line of it. -/
def startsSpace (text : List Char) : Bool :=
  text.head?.all fun character => isBreak character || character == ' '

/-- The characters between which the items of a flow collection stand. -/
def isFlowMark (character : Char) : Bool := [',', '[', ']', '\x7b', '\x7d'].contains character

def isNameChar (character : Char) : Bool :=
  character.isAlphanum || character == '-' || character == '_'

/-- A character three times with a gap behind it. -/
def startsTriple (mark : Char) (text : List Char) : Bool :=
  text.take 3 == [mark, mark, mark] && startsGap (text.drop 3)

/-- Whether the line that starts here opens a document. -/
def startsDocument (text : List Char) : Bool := startsTriple '-' text

/-- Whether the line that starts here closes a document. -/
def endsDocument (text : List Char) : Bool := startsTriple '.' text

/-- Whether the line that starts here opens or closes a document. -/
def startsMarker (text : List Char) : Bool := startsDocument text || endsDocument text

end HostResolver.Document.Yaml
