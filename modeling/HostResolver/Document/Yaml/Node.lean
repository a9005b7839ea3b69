import HostResolver.Document.Yaml.Token

/-!
Nodes of a document.

This module owns the tree that the tokens of a document make: scalars, sequences and mappings with
the tags that are written on them. An alias stands for the node that was anchored before it. A node
that contains itself is unrolled once. What scalars and tags mean is not decided here.
-/

namespace HostResolver.Document.Yaml

/-- A node with the tag written on it, if there is one. -/
inductive Node where
  | scalar (tag : Option String) (plain : Bool) (text : String)
  | sequence (tag : Option String) (items : List Node)
  | mapping (tag : Option String) (entries : List (Node × Node))
  /-- A mapping that takes over the entries of something that has none. -/
  | unmergeable (tag : Option String)
  /-- An alias inside the node that it stands for. -/
  | alias (name : String)
deriving Inhabited

/-- The node that stands where nothing is written. -/
def Node.empty (tag : Option String) : Node := .scalar tag true ""

namespace Node

mutual

/-- The node with another one in the place of an alias. -/
def replace (name : String) (inner : Node) : Node → Node
  | .scalar tag plain text => .scalar tag plain text
  | .sequence tag items => .sequence tag (replaceItems name inner items)
  | .mapping tag entries => .mapping tag (replaceEntries name inner entries)
  | .unmergeable tag => .unmergeable tag
  | .alias other => if other = name then inner else .alias other

/-- The items of a sequence with a node in the place of an alias. -/
def replaceItems (name : String) (inner : Node) : List Node → List Node
  | [] => []
  | item :: items => replace name inner item :: replaceItems name inner items

/-- The entries of a mapping with a node in the place of an alias. -/
def replaceEntries (name : String) (inner : Node) : List (Node × Node) → List (Node × Node)
  | [] => []
  | (key, value) :: entries =>
    (replace name inner key, replace name inner value) :: replaceEntries name inner entries

end

end Node

/-- How far the tokens are used up. -/
structure Builder where
  tokens : List Token
  /-- The anchored nodes; none for a node that is not complete yet. -/
  anchors : List (String × Option Node)
  /-- What the handles of tags stand for. -/
  handles : List (String × String)

abbrev Build (α : Type) := StateT Builder (Except YamlError) α

namespace Build

def peek : Build (Option Token) := do return (← get).tokens.head?

def drop : Build Unit := modify fun builder => { builder with tokens := builder.tokens.tail }

/-- Whether the next token is one of some tokens. -/
def atAny (tokens : List Token) : Build Bool := do return (← peek).any tokens.contains

/-- Takes a token that has to come next. -/
def expect (token : Token) : Build Unit := do
  if ← atAny [token] then drop else throw .malformed

/-- The handles that are known without a directive. -/
def knownHandles : List (String × String) := [("!", "!"), ("!!", "tag:yaml.org,2002:")]

def fullTag (tag : WrittenTag) : Build String := do
  match tag.handle with
  | none => return tag.suffix
  | some handle =>
    match (← get).handles.lookup handle with
    | some start => return start ++ tag.suffix
    | none => throw .malformed

/-- Takes a tag, if one comes next. -/
def takeTag : Build (Option String) := do
  match ← peek with
  | some (.tag tag) =>
    drop
    return some (← fullTag tag)
  | _ => return none

/-- Takes an anchor, if one comes next. -/
def takeAnchor : Build (Option String) := do
  match ← peek with
  | some (.anchor name) =>
    drop
    return some name
  | _ => return none

/-- Takes an anchor and a tag in either order; both may be missing. -/
def takeProperties : Build (Option String × Option String) := do
  match ← takeAnchor with
  | some anchor => return (some anchor, ← takeTag)
  | none =>
    let tag ← takeTag
    if tag.isSome then return (← takeAnchor, tag) else return (none, none)

/-- Registers the anchor of a node that begins. No two nodes have one anchor. -/
def openAnchor : Option String → Build Unit
  | none => return ()
  | some name => do
    let builder ← get
    if (builder.anchors.lookup name).isSome then throw .malformed
    set { builder with anchors := (name, none) :: builder.anchors }

/-- Registers the node of an anchor, in which an alias for the node itself is unrolled. -/
def closeAnchor (anchor : Option String) (node : Node) : Build Node := do
  match anchor with
  | none => return node
  | some name =>
    let unrolled := Node.replace name node node
    modify fun builder => { builder with anchors := (name, some unrolled) :: builder.anchors }
    return unrolled

def aliased (name : String) : Build Node := do
  match (← get).anchors.lookup name with
  | some (some node) => return node
  | some none => return .alias name
  | none => throw .malformed

/-- Where a node may stand. -/
inductive Position where
  | flow
  | block
  /-- In a block mapping, where a sequence need not be indented. -/
  | blockEntry
deriving DecidableEq, Repr

mutual

def node (position : Position) : Nat → Build Node
  | 0 => throw .malformed
  | fuel + 1 => do
    match ← peek with
    | some (.alias name) =>
      drop
      aliased name
    | _ =>
      let (anchor, tag) ← takeProperties
      let found ← peek
      if found = some .blockEntry ∧ position = .blockEntry then
        openAnchor anchor
        closeAnchor anchor (.sequence tag (← openItems fuel))
      else
        match found, position with
        | some (.scalar text plain), _ =>
          openAnchor anchor
          drop
          closeAnchor anchor (.scalar tag plain text)
        | some .flowSequenceStart, _ =>
          openAnchor anchor
          drop
          closeAnchor anchor (.sequence tag (← flowItems true fuel))
        | some .flowMappingStart, _ =>
          openAnchor anchor
          drop
          closeAnchor anchor (.mapping tag (← flowEntries true fuel))
        | some .blockSequenceStart, .block | some .blockSequenceStart, .blockEntry =>
          openAnchor anchor
          drop
          closeAnchor anchor (.sequence tag (← blockItems fuel))
        | some .blockMappingStart, .block | some .blockMappingStart, .blockEntry =>
          openAnchor anchor
          drop
          closeAnchor anchor (.mapping tag (← blockEntries fuel))
        | _, _ =>
          if anchor.isSome || tag.isSome then
            openAnchor anchor
            closeAnchor anchor (.empty tag)
          else throw .malformed

/-- Builds a node, or the empty one if the next token is one of some tokens. -/
def nodeUnless (position : Position) (ends : List Token) : Nat → Build Node
  | 0 => throw .malformed
  | fuel + 1 => do
    if ← atAny ends then return .empty none else node position fuel

/-- Builds the items of a block sequence. -/
def blockItems : Nat → Build (List Node)
  | 0 => throw .malformed
  | fuel + 1 => do
    if ← atAny [.blockEntry] then
      drop
      let item ← nodeUnless .block [.blockEntry, .blockEnd] fuel
      return item :: (← blockItems fuel)
    else
      expect .blockEnd
      return []

/-- Builds the items of a block sequence that is not indented. -/
def openItems : Nat → Build (List Node)
  | 0 => throw .malformed
  | fuel + 1 => do
    if ← atAny [.blockEntry] then
      drop
      let item ← nodeUnless .block [.blockEntry, .key, .value, .blockEnd] fuel
      return item :: (← openItems fuel)
    else return []

/-- Builds the value behind a key, if there is one. -/
def entryValue (position : Position) (ends : List Token) : Nat → Build Node
  | 0 => throw .malformed
  | fuel + 1 => do
    if ← atAny [.value] then
      drop
      nodeUnless position ends fuel
    else return .empty none

/-- Builds the entries of a block mapping. -/
def blockEntries : Nat → Build (List (Node × Node))
  | 0 => throw .malformed
  | fuel + 1 => do
    if ← atAny [.key] then
      drop
      let ends := [Token.key, .value, .blockEnd]
      let key ← nodeUnless .blockEntry ends fuel
      let value ← entryValue .blockEntry ends fuel
      return (key, value) :: (← blockEntries fuel)
    else
      expect .blockEnd
      return []

/-- Builds the items of a flow sequence. A key among them makes a mapping of one entry. -/
def flowItems (first : Bool) : Nat → Build (List Node)
  | 0 => throw .malformed
  | fuel + 1 => do
    if ← atAny [.flowSequenceEnd] then
      drop
      return []
    else
      if !first then expect .flowEntry
      if ← atAny [.flowSequenceEnd] then
        drop
        return []
      else if ← atAny [.key] then
        drop
        let key ← nodeUnless .flow [.value, .flowEntry, .flowSequenceEnd] fuel
        let value ← entryValue .flow [.flowEntry, .flowSequenceEnd] fuel
        return .mapping none [(key, value)] :: (← flowItems false fuel)
      else
        let item ← node .flow fuel
        return item :: (← flowItems false fuel)

/-- Builds the entries of a flow mapping. A node without a colon is a key without a value. -/
def flowEntries (first : Bool) : Nat → Build (List (Node × Node))
  | 0 => throw .malformed
  | fuel + 1 => do
    if ← atAny [.flowMappingEnd] then
      drop
      return []
    else
      if !first then expect .flowEntry
      if ← atAny [.flowMappingEnd] then
        drop
        return []
      else if ← atAny [.key] then
        drop
        let key ← nodeUnless .flow [.value, .flowEntry, .flowMappingEnd] fuel
        let value ← entryValue .flow [.flowEntry, .flowMappingEnd] fuel
        return (key, value) :: (← flowEntries false fuel)
      else
        let key ← node .flow fuel
        return (key, .empty none) :: (← flowEntries false fuel)

end

/-! ## Documents -/

/-- Takes the directives in front of a document, given whether a version was met. -/
def directives (versioned : Bool) (handles : List (String × String)) :
    List Token → Except YamlError (List (String × String) × List Token)
  | .directive (.version major) :: tokens =>
    if versioned || major != 1 then .error .malformed else directives true handles tokens
  | .directive (.handle name start) :: tokens =>
    if (handles.lookup name).isSome then .error .malformed
    else directives versioned ((name, start) :: handles) tokens
  | .directive .other :: tokens => directives versioned handles tokens
  | tokens => .ok (handles, tokens)

/-- Builds the node of a document without directives or a marker line, up to its end. -/
def bareDocument (fuel : Nat) : Build Node := node .block fuel

/-- Builds the node of a document with directives or a marker line. -/
def markedDocument (fuel : Nat) : Build Node := do
  let builder ← get
  let (handles, tokens) ← directives false [] builder.tokens
  set { builder with tokens := tokens, handles := handles ++ knownHandles }
  expect .documentStart
  match ← peek with
  | none | some .documentStart | some .documentEnd | some (.directive _) => return .empty none
  | _ => node .block fuel

/-- Builds the node of the only document of a text. -/
def onlyDocument (fuel : Nat) : Build (Option Node) := do
  let found ←
    match ← peek with
    | none => return none
    | some .documentStart | some (.directive _) => markedDocument fuel
    | _ => bareDocument fuel
  let rest := (← get).tokens.dropWhile (· == .documentEnd)
  if rest.isEmpty then return some found else throw .malformed

end Build

/-- The node of the only document that tokens make; none if there is no document. Every second call
of a builder takes a token, so three calls for each token are enough. -/
def Node.ofTokens (tokens : List Token) : Except YamlError (Option Node) :=
  (Build.onlyDocument (3 * tokens.length + 8)).run' ⟨tokens, [], Build.knownHandles⟩

end HostResolver.Document.Yaml
