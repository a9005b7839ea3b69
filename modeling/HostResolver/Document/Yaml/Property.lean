import HostResolver.Document.Yaml.Block
import HostResolver.Text.Utf8

/-!
Names, tags and directives of a document.

This module owns the reading of what stands in front of a node or a document: the name of an anchor,
a tag with or without a handle, and the directives that fix the version and the handles.
-/

namespace HostResolver.Document.Yaml

open HostResolver.Text

/-- A directive at the start of a document. -/
inductive Directive where
  | version (major : Nat)
  | handle (name start : String)
  | other
deriving DecidableEq, Repr

/-- A tag as it is written: its handle, if it has one, and the rest. -/
structure WrittenTag where
  handle : Option String
  suffix : String
deriving DecidableEq, Repr

/-! ## Names -/

def readName (text : List Char) : Except YamlError (List Char × List Char) :=
  let name := text.takeWhile isNameChar
  if name.isEmpty then .error .malformed else .ok (name, text.dropWhile isNameChar)

/-- Whether the name of an anchor may end in front of a text. -/
def endsAnchor (text : List Char) : Bool :=
  startsGap text || text.head?.any fun character =>
    ['?', ':', ',', ']', '\x7d', '%', '@', Char.ofNat 0x60].contains character

def readAnchor (text : List Char) : Except YamlError (String × List Char) := do
  let (name, rest) ← readName text
  if endsAnchor rest then return (String.ofList name, rest) else throw .malformed

/-! ## Tags -/

/-- The characters of a tag besides escapes. -/
def isTagChar (character : Char) : Bool :=
  isNameChar character ||
    [';', '/', '?', ':', '@', '&', '=', '+', '$', ',', '.', '!', '~', '*', singleQuote, '(', ')',
      '[', ']'].contains character

/-- Takes the characters of a tag in UTF-8; an escape gives one byte. -/
def tagBytes : List Char → Except YamlError (List UInt8 × List Char)
  | [] => .ok ([], [])
  | '%' :: high :: low :: rest =>
    match hexValue? high, hexValue? low with
    | some first, some second =>
      (tagBytes rest).map fun read => (UInt8.ofNat (16 * first + second) :: read.1, read.2)
    | _, _ => .error .malformed
  | '%' :: _ => .error .malformed
  | character :: rest =>
    if isTagChar character then
      (tagBytes rest).map fun read => (UInt8.ofNat character.toNat :: read.1, read.2)
    else .ok ([], character :: rest)

/-- Reads the text of a tag, which is not empty. -/
def readTagText (text : List Char) : Except YamlError (String × List Char) := do
  let (bytes, rest) ← tagBytes text
  if bytes.isEmpty then throw .malformed
  let decoded := Utf8.decode bytes
  match decoded.ending with
  | .complete => return (String.ofList decoded.text, rest)
  | _ => throw .malformed

/-- Reads a handle: an exclamation mark by itself before a space, or a name between two of them. -/
def readHandle : List Char → Except YamlError (String × List Char)
  | '!' :: ' ' :: rest => .ok ("!", ' ' :: rest)
  | '!' :: text =>
    match text.dropWhile isNameChar with
    | '!' :: rest => .ok (String.ofList ('!' :: text.takeWhile isNameChar ++ ['!']), rest)
    | _ => .error .malformed
  | _ => .error .malformed

/-- Whether a second exclamation mark follows before the next space or line end. -/
def hasHandle (text : List Char) : Bool :=
  (text.takeWhile fun character => !(isBreak character || character == ' ')).contains '!'

/-- Reads a tag from behind its exclamation mark. -/
def readTag (text : List Char) : Except YamlError (WrittenTag × List Char) := do
  let (tag, rest) ←
    match text with
    | '<' :: inner => do
      let (suffix, rest) ← readTagText inner
      match rest with
      | '>' :: rest => pure (⟨none, suffix⟩, rest)
      | _ => throw .malformed
    | _ =>
      if startsGap text then pure (⟨none, "!"⟩, text)
      else do
        let (handle, inner) ← if hasHandle text then readHandle ('!' :: text) else pure ("!", text)
        let (suffix, rest) ← readTagText inner
        pure ((⟨some handle, suffix⟩ : WrittenTag), rest)
  if startsSpace rest then return (tag, rest) else throw .malformed

/-! ## Directives -/

def readCount (text : List Char) : Except YamlError (Nat × List Char) :=
  let digits := text.takeWhile Char.isDigit
  if digits.isEmpty then .error .malformed
  else .ok (ofDigits (digits.filterMap decimalDigit?), text.dropWhile Char.isDigit)

/-- Reads the major and the minor number of a version, and gives the major one. -/
def readVersion (text : List Char) : Except YamlError (Nat × List Char) := do
  let (major, rest) ← readCount text
  match rest with
  | '.' :: rest =>
    let (_, rest) ← readCount rest
    if startsSpace rest then return (major, rest) else throw .malformed
  | _ => throw .malformed

/-- Reads a directive from behind its percent sign, with its line. -/
def readDirective (text : List Char) : Except YamlError (Directive × List Char) := do
  let (name, rest) ← readName text
  if !startsSpace rest then throw .malformed
  let inner := rest.dropWhile (· == ' ')
  match String.ofList name with
  | "YAML" =>
    let (major, rest) ← readVersion inner
    return (.version major, ← BlockHeader.takeLineEnd rest)
  | "TAG" =>
    let (handle, rest) ← readHandle inner
    if rest.head? != some ' ' then throw .malformed
    let (start, rest) ← readTagText (rest.dropWhile (· == ' '))
    if !startsSpace rest then throw .malformed
    return (.handle handle start, ← BlockHeader.takeLineEnd rest)
  | _ =>
    return (.other, ← BlockHeader.takeLineEnd (rest.dropWhile fun character => !isBreak character))

end HostResolver.Document.Yaml
