import HostResolver.Document.Yaml.Node
import HostResolver.Document.Yaml.Scalar

/-!
Values of documents.

This module owns the value of a node and of a whole text. A tag decides of which kind a value is. A
mapping takes over the entries of others under the merge key, its own entries winning over them; of
several entries with one key the last one counts, at the place of the first. A set is the list of
its keys, and an ordered mapping the list of its entries.

A document may have more than one node that is no value. The one that is nearest to the root is
reported, and the first in the text among those. What is wrong with the form of a collection shows
only when its content is read, one step further from the root than the collection itself.
-/

namespace HostResolver.Document.Yaml

/-! ## Merging -/

namespace Node

/-- Whether a node is the key under which a mapping takes over entries. -/
def isMergeKey : Node → Bool
  | .scalar tag plain text =>
    match Meaning.ofScalar tag plain text with
    | .merge => true
    | _ => false
  | _ => false

def entries? : Node → Option (List (Node × Node))
  | .mapping _ entries => some entries
  | .alias _ => some []
  | _ => none

/-- The entries that a mapping takes over from a node: those of a mapping, or those of a sequence of
mappings, of which the first ones win. -/
def mergedEntries? : Node → Option (List (Node × Node))
  | .sequence _ items => (items.reverse.mapM entries?).map List.flatten
  | node => entries? node

/-- The entries of a mapping with those that it takes over in front. -/
def mergeEntries? (entries : List (Node × Node)) : Option (List (Node × Node)) := do
  let merged ← (entries.filter fun entry => isMergeKey entry.1).mapM fun entry =>
    mergedEntries? entry.2
  return merged.flatten ++ entries.filter fun entry => !isMergeKey entry.1

mutual

/-- The node with all entries that are taken over in place. -/
def flatten : Node → Node
  | .scalar tag plain text => .scalar tag plain text
  | .sequence tag items => .sequence tag (flattenItems items)
  | .mapping tag entries =>
    match mergeEntries? (flattenEntries entries) with
    | some merged => .mapping tag merged
    | none => .unmergeable tag
  | .unmergeable tag => .unmergeable tag
  | .alias name => .alias name

def flattenItems : List Node → List Node
  | [] => []
  | item :: items => item.flatten :: flattenItems items

/-- The flattened entries of a mapping, keys that take over entries included. -/
def flattenEntries : List (Node × Node) → List (Node × Node)
  | [] => []
  | (key, value) :: entries => (key.flatten, value.flatten) :: flattenEntries entries

end

end Node

/-! ## Values -/

/-- The value of a node, and what is wrong with it. -/
structure Found where
  value : Value
  /-- What is wrong with the node itself. -/
  own : List YamlError
  /-- What is wrong with the nodes below it, by depth. -/
  below : List (List YamlError)

/-- Puts what is wrong at each depth of two nodes together. -/
def joinDepths : List (List YamlError) → List (List YamlError) → List (List YamlError)
  | [], others => others
  | depths, [] => depths
  | first :: depths, second :: others => (first ++ second) :: joinDepths depths others

namespace Found

def sound (value : Value) : Found := ⟨value, [], []⟩

def faulty (error : YamlError) : Found := ⟨.null, [error], []⟩

/-- A collection whose content is not of the form that it has to have. -/
def misshapen : Found := ⟨.list [], [], [[.malformed]]⟩

/-- What is wrong with nodes that stand side by side, by depth. -/
def depths (found : List Found) : List (List YamlError) :=
  found.flatMap own :: (found.map below).foldl joinDepths []

def collection (value : Value) (found : List Found) : Found := ⟨value, [], depths found⟩

/-- The entries of a mapping, from its keys and values in order. -/
def entries (found : List (Found × Found)) : Entries :=
  found.foldl (fun entries entry => Entries.set entries entry.1.value entry.2.value) []

/-- A node in the place of a key. -/
def asKey (found : Found) : Found :=
  if found.value.isKey then found else { found with own := .malformed :: found.own }

def scalar (isKey : Bool) (meaning : Meaning) : Found :=
  match meaning with
  | .value (.ok value) => sound value
  | .value (.error error) => faulty error
  | .merge => faulty .malformed
  | .valueSign => if isKey then sound (.text "=") else faulty .malformed

/-- The value of the document whose root was found, or the first thing that is wrong with it. -/
def toExcept (found : Found) : Except YamlError Value :=
  match found.own ++ found.below.flatten with
  | [] => .ok found.value
  | error :: _ => .error error

end Found

/-! ## Collections -/

/-- What a collection is read as. -/
inductive Shape where
  | sequence
  | mapping
  | set
  /-- A sequence of mappings with one entry each. -/
  | pairs
deriving DecidableEq, Repr

/-- The shape that a tag asks for. -/
def Shape.ofTag? (tag : String) : Option Shape :=
  if tag = Meaning.knownTag "seq" then some .sequence
  else if tag = Meaning.knownTag "map" then some .mapping
  else if tag = Meaning.knownTag "set" then some .set
  else if tag = Meaning.knownTag "omap" ∨ tag = Meaning.knownTag "pairs" then some .pairs
  else none

/-- The shape of a collection with a tag that may ask for another one; nothing if the tag asks for
no collection. -/
def Shape.under? (shape : Shape) : Option String → Option Shape
  | none | some "!" => some shape
  | some tag => Shape.ofTag? tag

namespace Node

mutual

/-- The value of a node, which may be a key. An alias that is left counts as an empty mapping. -/
def find (isKey : Bool) : Node → Found
  | .scalar tag plain text =>
    if (tag.bind Shape.ofTag?).isSome then .misshapen
    else .scalar isKey (Meaning.ofScalar tag plain text)
  | .sequence tag items =>
    match Shape.sequence.under? tag with
    | some .sequence =>
      let found := findItems items
      .collection (.list (found.map Found.value)) found
    | some .pairs =>
      let found := findPairs items
      .collection (.list (found.map fun entry => .list [entry.1.value, entry.2.value]))
        (found.flatMap fun entry => [entry.1, entry.2])
    | some _ => .misshapen
    | none => .faulty .malformed
  | .mapping tag entries =>
    let found := findEntries entries
    let whole := fun value => Found.collection value (found.flatMap fun entry => [entry.1, entry.2])
    match Shape.mapping.under? tag with
    | some .mapping => whole (.mapping (Found.entries found))
    | some .set => whole (.list ((Found.entries found).map Prod.fst))
    | some _ => .misshapen
    | none => .faulty .malformed
  | .unmergeable tag =>
    if (Shape.mapping.under? tag).isSome then .misshapen else .faulty .malformed
  | .alias _ => .sound (.mapping [])

/-- The values of the items of a sequence. -/
def findItems : List Node → List Found
  | [] => []
  | item :: items => item.find false :: findItems items

/-- The values of the keys and values of a mapping. -/
def findEntries : List (Node × Node) → List (Found × Found)
  | [] => []
  | (key, value) :: entries => ((key.find true).asKey, value.find false) :: findEntries entries

/-- The keys and values of mappings with one entry each. -/
def findPairs : List Node → List (Found × Found)
  | [] => []
  | .mapping _ [(key, value)] :: items => (key.find false, value.find false) :: findPairs items
  | _ :: items => (.faulty .malformed, .sound .null) :: findPairs items

end

end Node

/-- The value of a text; null if there is no document in it. -/
def read (text : List Char) : Except YamlError Value := do
  let tokens ← Token.ofText text
  match ← Node.ofTokens tokens with
  | none => return .null
  | some node => (node.flatten.find false).toExcept

end HostResolver.Document.Yaml
