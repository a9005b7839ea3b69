import HostResolver.Document.Yaml.Cursor
import HostResolver.Document.Yaml.Plain
import HostResolver.Document.Yaml.Property

/-!
Tokens of a document.

This module owns the cutting of a text into tokens. Indentation opens and closes block collections,
which gives tokens of its own. A node may turn out to be the key of a mapping only when its colon is
met, so the place of every node that may still become a key is remembered, one for each level of
flow collections; the tokens that make it a key are put there afterwards.

A key and its colon stand on one line, at most 1024 characters apart. A node at the indentation of
an open block mapping has to become a key.
-/

namespace HostResolver.Document.Yaml

/-- A token. -/
inductive Token where
  | directive (directive : Directive)
  | documentStart
  | documentEnd
  | blockSequenceStart
  | blockMappingStart
  | blockEnd
  | flowSequenceStart
  | flowSequenceEnd
  | flowMappingStart
  | flowMappingEnd
  | flowEntry
  | blockEntry
  | key
  | value
  | alias (name : String)
  | anchor (name : String)
  | tag (tag : WrittenTag)
  | scalar (text : String) (plain : Bool)
deriving DecidableEq, Repr

/-- A node that may still become a key. -/
structure PossibleKey where
  level : Nat
  /-- The count of tokens before the node. -/
  place : Nat
  /-- Whether the node has to become a key. -/
  required : Bool
  index : Nat
  line : Nat
  column : Nat
deriving Repr

/-- The greatest distance between the start of a key and its colon. -/
def maxKeyLength : Nat := 1024

/-- How far the cutting into tokens has come. -/
structure Lexer where
  cursor : Cursor
  /-- The tokens so far, the last one first. -/
  tokens : List Token
  /-- The count of open flow collections. -/
  flowLevel : Nat
  /-- The columns of the open block collections, the innermost first. -/
  indents : List Nat
  /-- Whether a node that starts here may become a key. -/
  allowsKey : Bool
  keys : List PossibleKey

abbrev Lexed := Except YamlError Lexer

namespace Lexer

def start (text : List Char) : Lexer :=
  let cursor := Cursor.start text
  { cursor := if text.head? == some byteOrderMark then cursor.advance else cursor
    tokens := []
    flowLevel := 0
    indents := []
    allowsKey := true
    keys := [] }

def push (lexer : Lexer) (token : Token) : Lexer := { lexer with tokens := token :: lexer.tokens }

/-- Puts a token behind the first `place` tokens. -/
def insertAt (lexer : Lexer) (place : Nat) (token : Token) : Lexer :=
  let later := lexer.tokens.length - place
  { lexer with tokens := lexer.tokens.take later ++ token :: lexer.tokens.drop later }

def skip (lexer : Lexer) (count : Nat) : Lexer :=
  { lexer with cursor := lexer.cursor.skip count }

/-- Moves on to what a reader left. -/
def leave (lexer : Lexer) (rest : List Char) : Lexer :=
  { lexer with cursor := lexer.cursor.leave rest }

/-- Whether the place is inside a flow collection. -/
def inFlow (lexer : Lexer) : Bool := lexer.flowLevel != 0

/-- The column that the further lines of a scalar have to reach. -/
def margin (lexer : Lexer) : Nat :=
  match lexer.indents with
  | [] => 0
  | indent :: _ => indent + 1

/-! ## Indentation -/

/-- Closes the block collections that are indented more than a column; all of them at the end of a
document. -/
def closeBlocks (lexer : Lexer) (column : Option Nat) : Lexer :=
  if lexer.inFlow then lexer
  else
    let closed := lexer.indents.takeWhile fun indent => column.all (· < indent)
    { lexer with
      indents := lexer.indents.drop closed.length
      tokens := List.replicate closed.length Token.blockEnd ++ lexer.tokens }

/-- Opens a block collection at a column, and tells whether it was not open yet. -/
def openBlock (lexer : Lexer) (column : Nat) : Bool × Lexer :=
  if lexer.margin ≤ column then (true, { lexer with indents := column :: lexer.indents })
  else (false, lexer)

/-! ## Possible keys -/

/-- Forgets the possible key of the present level; one that has to become a key is missed. -/
def forgetKey (lexer : Lexer) : Lexed :=
  if lexer.keys.any fun key => key.level == lexer.flowLevel && key.required then .error .malformed
  else .ok { lexer with keys := lexer.keys.filter (·.level != lexer.flowLevel) }

/-- Whether a possible key is too far back to become one. -/
def isStale (lexer : Lexer) (key : PossibleKey) : Bool :=
  key.line != lexer.cursor.line || decide (key.index + maxKeyLength < lexer.cursor.index)

/-- Forgets the possible keys that are too far back. -/
def forgetStaleKeys (lexer : Lexer) : Lexed :=
  if lexer.keys.any fun key => lexer.isStale key && key.required then .error .malformed
  else .ok { lexer with keys := lexer.keys.filter fun key => !lexer.isStale key }

/-- Remembers that the node that starts here may become a key. -/
def rememberKey (lexer : Lexer) : Lexed :=
  if lexer.allowsKey then do
    let lexer ← lexer.forgetKey
    let key : PossibleKey :=
      { level := lexer.flowLevel
        place := lexer.tokens.length
        required := !lexer.inFlow && lexer.indents.head? == some lexer.cursor.column
        index := lexer.cursor.index
        line := lexer.cursor.line
        column := lexer.cursor.column }
    return { lexer with keys := key :: lexer.keys }
  else return lexer

/-! ## Steps -/

/-- Moves on to the start of the next token, over spaces, comments and line ends. Only `fuel` line
ends are passed over. -/
def findToken : Nat → Lexer → Lexer
  | 0, lexer => lexer
  | fuel + 1, lexer =>
    let cursor := lexer.cursor.skipFiller
    match cursor.rest with
    | character :: _ =>
      if isBreak character then
        findToken fuel
          { lexer with cursor := cursor.advance, allowsKey := lexer.allowsKey || !lexer.inFlow }
      else { lexer with cursor := cursor }
    | [] => { lexer with cursor := cursor }

/-- Ends a document before a directive or a marker line. -/
def endDocument (lexer : Lexer) : Lexed := do
  let lexer ← (lexer.closeBlocks none).forgetKey
  return { lexer with allowsKey := false }

def marker (lexer : Lexer) (token : Token) : Lexed := do
  let lexer ← lexer.endDocument
  return (lexer.skip 3).push token

def directive (lexer : Lexer) : Lexed := do
  let lexer ← lexer.endDocument
  let (found, rest) ← readDirective lexer.cursor.rest.tail
  return (lexer.leave rest).push (.directive found)

def openFlow (lexer : Lexer) (token : Token) : Lexed := do
  let lexer ← lexer.rememberKey
  let deeper := { lexer with flowLevel := lexer.flowLevel + 1, allowsKey := true }
  return (deeper.skip 1).push token

def closeFlow (lexer : Lexer) (token : Token) : Lexed := do
  if !lexer.inFlow then throw .malformed
  let lexer ← lexer.forgetKey
  let higher := { lexer with flowLevel := lexer.flowLevel - 1, allowsKey := false }
  return (higher.skip 1).push token

def flowEntry (lexer : Lexer) : Lexed := do
  let lexer ← { lexer with allowsKey := true }.forgetKey
  return (lexer.skip 1).push .flowEntry

/-- Opens a block collection for an indicator that stands here. -/
def openBlockHere (lexer : Lexer) (token : Token) : Lexed :=
  if lexer.inFlow then .ok lexer
  else if !lexer.allowsKey then .error .malformed
  else
    match lexer.openBlock lexer.cursor.column with
    | (true, lexer) => .ok (lexer.push token)
    | (false, lexer) => .ok lexer

def blockEntry (lexer : Lexer) : Lexed := do
  let lexer ← lexer.openBlockHere .blockSequenceStart
  let lexer ← { lexer with allowsKey := true }.forgetKey
  return (lexer.skip 1).push .blockEntry

def explicitKey (lexer : Lexer) : Lexed := do
  let lexer ← lexer.openBlockHere .blockMappingStart
  let lexer ← { lexer with allowsKey := !lexer.inFlow }.forgetKey
  return (lexer.skip 1).push .key

/-- The colon of a value. The node before it becomes a key if it may. -/
def value (lexer : Lexer) : Lexed := do
  match lexer.keys.find? (·.level == lexer.flowLevel) with
  | some key =>
    let keyed := lexer.insertAt key.place .key
    let opened :=
      if lexer.inFlow then keyed
      else
        match keyed.openBlock key.column with
        | (true, opened) => opened.insertAt key.place .blockMappingStart
        | (false, opened) => opened
    let known :=
      { opened with
        keys := opened.keys.filter (·.level != opened.flowLevel)
        allowsKey := false }
    return (known.skip 1).push .value
  | none =>
    let lexer ← lexer.openBlockHere .blockMappingStart
    let lexer ← { lexer with allowsKey := !lexer.inFlow }.forgetKey
    return (lexer.skip 1).push .value

/-- A node or a property of one that is read in one piece and may become a key. -/
def piece {α : Type} (lexer : Lexer) (read : List Char → Except YamlError (α × List Char))
    (token : α → Token) : Lexed := do
  let lexer ← lexer.rememberKey
  let (found, rest) ← read lexer.cursor.rest.tail
  return ({ lexer with allowsKey := false }.leave rest).push (token found)

def quoted (lexer : Lexer) (style : QuoteStyle) : Lexed :=
  lexer.piece (readQuoted style) fun text => .scalar (String.ofList text) false

/-- A block scalar, which cannot become a key. -/
def blockScalar (lexer : Lexer) (folded : Bool) : Lexed := do
  let lexer ← { lexer with allowsKey := true }.forgetKey
  let (text, rest) ← readBlock folded lexer.margin lexer.cursor.rest.tail
  return (lexer.leave rest).push (.scalar (String.ofList text) false)

def plain (lexer : Lexer) : Lexed := do
  let lexer ← lexer.rememberKey
  let found := readPlain lexer.inFlow lexer.margin lexer.cursor.rest
  return ({ lexer with allowsKey := found.broken }.leave found.rest).push
    (.scalar (String.ofList found.value) true)

/-- Whether a plain scalar may start here. -/
def startsPlain (lexer : Lexer) (character : Char) (rest : List Char) : Bool :=
  if character == '-' then !startsGap rest
  else if character == '?' || character == ':' then !lexer.inFlow && !startsGap rest
  else
    !(isBreak character || isSpaceOrTab character || isFlowMark character ||
      ['#', '&', '*', '!', '|', '>', '\'', '"', '%', '@', Char.ofNat 0x60].contains character)

/-- Reads the token that starts with a character. -/
def readToken (lexer : Lexer) (character : Char) (rest : List Char) : Lexed :=
  let text := lexer.cursor.rest
  let atLineStart := lexer.cursor.column == 0
  if atLineStart && character == '%' then lexer.directive
  else if atLineStart && startsDocument text then lexer.marker .documentStart
  else if atLineStart && endsDocument text then lexer.marker .documentEnd
  else if character == '[' then lexer.openFlow .flowSequenceStart
  else if character == '\x7b' then lexer.openFlow .flowMappingStart
  else if character == ']' then lexer.closeFlow .flowSequenceEnd
  else if character == '\x7d' then lexer.closeFlow .flowMappingEnd
  else if character == ',' then lexer.flowEntry
  else if character == '-' && startsGap rest then lexer.blockEntry
  else if character == '?' && (lexer.inFlow || startsGap rest) then lexer.explicitKey
  else if character == ':' && (lexer.inFlow || startsGap rest) then lexer.value
  else if character == '*' then lexer.piece readAnchor .alias
  else if character == '&' then lexer.piece readAnchor .anchor
  else if character == '!' then lexer.piece readTag .tag
  else if character == '|' && !lexer.inFlow then lexer.blockScalar false
  else if character == '>' && !lexer.inFlow then lexer.blockScalar true
  else if character == '\'' then lexer.quoted .single
  else if character == '"' then lexer.quoted .double
  else if lexer.startsPlain character rest then lexer.plain
  else .error .malformed

/-- Reads all tokens. Each one takes a character or more, so as many steps as there are characters
are enough. -/
def readTokens : Nat → Lexer → Lexed
  | 0, _ => .error .malformed
  | fuel + 1, lexer => do
    let lexer ← (lexer.findToken lexer.cursor.rest.length).forgetStaleKeys
    let lexer := lexer.closeBlocks (some lexer.cursor.column)
    match lexer.cursor.rest with
    | [] => lexer.endDocument
    | character :: rest => readTokens fuel (← lexer.readToken character rest)

end Lexer

def Token.ofText (text : List Char) : Except YamlError (List Token) :=
  if !text.all isAllowed then .error .malformed
  else
    ((Lexer.start text).readTokens (text.length + 1)).map fun lexer => lexer.tokens.reverse

end HostResolver.Document.Yaml
