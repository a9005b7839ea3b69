import HostResolver.Document.Yaml.Quoted

/-!
Block scalars of a document.

This module owns the reading of a scalar that follows its header line and is told from its
surroundings by indentation alone. A literal one keeps its line ends, a folded one joins lines that
start with ink. The header says how deep the scalar is indented, or the first line of ink does, and
what becomes of the line ends at the end.
-/

namespace HostResolver.Document.Yaml

/-- What becomes of the line ends at the end of a scalar. -/
inductive Chomping where
  | strip
  | clip
  | keep
deriving DecidableEq, Repr

/-- What the header line says. -/
structure BlockHeader where
  chomping : Chomping
  /-- The indentation beyond that of the surroundings, if it is given. -/
  increment : Option Nat
deriving DecidableEq, Repr

namespace BlockHeader

def takeChomping : List Char → Option Chomping × List Char
  | '+' :: rest => (some .keep, rest)
  | '-' :: rest => (some .strip, rest)
  | rest => (none, rest)

/-- Reads a digit, which may not be zero. -/
def takeIncrement : List Char → Except YamlError (Option Nat × List Char)
  | '0' :: _ => .error .malformed
  | character :: rest =>
    if character.isDigit then .ok (some (character.toNat - 48), rest)
    else .ok (none, character :: rest)
  | [] => .ok (none, [])

/-- Takes the rest of a line that may hold a comment and nothing else. -/
def takeLineEnd (text : List Char) : Except YamlError (List Char) :=
  let inked := text.dropWhile (· == ' ')
  let ending :=
    if inked.head? == some '#' then inked.dropWhile fun character => !isBreak character
    else inked
  if endsLine ending then .ok ending.tail else .error .malformed

/-- Reads a header: a sign and a digit in either order, both of which may be missing. -/
def read (text : List Char) : Except YamlError (BlockHeader × List Char) := do
  let (first, rest) := takeChomping text
  let (increment, rest) ← takeIncrement rest
  let (second, rest) := if first.isNone && increment.isSome then takeChomping rest else (none, rest)
  if !startsSpace rest then throw .malformed
  let rest ← takeLineEnd rest
  return (⟨(first.or second).getD .clip, increment⟩, rest)

end BlockHeader

/-- Empty lines, what follows them and its column. -/
structure Leading where
  breaks : List Char
  rest : List Char
  column : Nat
  /-- The largest column on the way. -/
  widest : Nat
deriving Repr

def readIndentation (column widest : Nat) : List Char → Leading
  | [] => ⟨[], [], column, widest⟩
  | character :: rest =>
    if character == ' ' then readIndentation (column + 1) (max widest (column + 1)) rest
    else if isBreak character then
      let later := readIndentation 0 widest rest
      { later with breaks := breakValue character :: later.breaks }
    else ⟨[], character :: rest, column, widest⟩

/-- Takes line ends, and spaces up to a column. -/
def readEmptyBlockLines (indent column : Nat) : List Char → Leading
  | [] => ⟨[], [], column, indent⟩
  | character :: rest =>
    if character == ' ' && decide (column < indent) then
      readEmptyBlockLines indent (column + 1) rest
    else if isBreak character then
      let later := readEmptyBlockLines indent 0 rest
      { later with breaks := breakValue character :: later.breaks }
    else ⟨[], character :: rest, column, indent⟩

theorem length_readEmptyBlockLines_le (indent column : Nat) (text : List Char) :
    (readEmptyBlockLines indent column text).rest.length ≤ text.length := by
  induction text generalizing column with
  | nil => exact Nat.le_refl _
  | cons character rest inductionHypothesis =>
    unfold readEmptyBlockLines
    split
    · exact Nat.le_succ_of_le (inductionHypothesis _)
    · split
      · exact Nat.le_succ_of_le (inductionHypothesis _)
      · exact Nat.le_refl _

/-- The lines of a scalar: its text without the line end of the last line, that line end, the empty
lines behind it, and what follows them. -/
structure BlockLines where
  text : List Char
  ending : List Char
  breaks : List Char
  rest : List Char
deriving Repr

def joinBlockLines (folded : Bool) (line : List Char) (ending : Char) (breaks next : List Char) :
    List Char :=
  let inked := fun text : List Char => !text.head?.any isSpaceOrTab
  if folded && breakValue ending == '\n' && inked line && inked next then
    if breaks.isEmpty then [' '] else breaks
  else breakValue ending :: breaks

/-- Reads lines from the column of a scalar on. -/
def readBlockLines (folded : Bool) (indent : Nat) (text : List Char) : BlockLines :=
  match lineEnd : text.dropWhile fun character => !isBreak character with
  | [] => ⟨text, [], [], []⟩
  | ending :: behind =>
    let line := text.takeWhile fun character => !isBreak character
    let next := readEmptyBlockLines indent 0 behind
    if next.column == indent && !next.rest.isEmpty then
      have : next.rest.length < text.length :=
        Nat.lt_of_le_of_lt (length_readEmptyBlockLines_le indent 0 behind)
          (length_lt_of_dropWhile lineEnd)
      let later := readBlockLines folded indent next.rest
      { later with
        text := line ++ joinBlockLines folded text ending next.breaks next.rest ++ later.text }
    else ⟨line, [breakValue ending], next.breaks, next.rest⟩
termination_by text.length

/-- Reads a scalar from behind its mark: its value, and what follows it. `margin` is the column that
the scalar has to reach. -/
def readBlock (folded : Bool) (margin : Nat) (text : List Char) :
    Except YamlError (List Char × List Char) := do
  let (header, body) ← BlockHeader.read text
  let least := max 1 margin
  let found := readIndentation 0 0 body
  let indent :=
    match header.increment with
    | none => max least found.widest
    | some increment => least + increment - 1
  let leading :=
    match header.increment with
    | none => found
    | some _ => readEmptyBlockLines indent 0 body
  let lines :=
    if leading.column == indent && !leading.rest.isEmpty then
      let lines := readBlockLines folded indent leading.rest
      { lines with text := leading.breaks ++ lines.text }
    else ⟨[], [], leading.breaks, leading.rest⟩
  let ending := if header.chomping = .strip then [] else lines.ending
  let trailing := if header.chomping = .keep then lines.breaks else []
  return (lines.text ++ ending ++ trailing, lines.rest)

end HostResolver.Document.Yaml
