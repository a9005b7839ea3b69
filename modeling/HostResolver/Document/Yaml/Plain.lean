import HostResolver.Document.Yaml.Quoted

/-!
Plain scalars of a document.

This module owns the reading of a scalar without quotes. It is made of runs of ink with gaps between
them. A run ends at a colon with a gap behind it, and within a flow collection also at the marks of
the collection. A gap counts as its spaces, or as its folded line ends if it crosses a line end; it
belongs to the scalar only if another run follows that is indented deeply enough.
-/

namespace HostResolver.Document.Yaml

/-- Whether a run of a plain scalar ends in front of a text. -/
def endsRun (inFlow : Bool) : List Char → Bool
  | [] => true
  | character :: rest =>
    isBreak character || isSpaceOrTab character ||
      (character == ':' && (startsGap rest || (inFlow && rest.head?.any isFlowMark))) ||
      (inFlow && (isFlowMark character || character == '?'))

/-- Takes a run from the front of a text. -/
def takeRun (inFlow : Bool) : List Char → List Char × List Char
  | [] => ([], [])
  | character :: rest =>
    if endsRun inFlow (character :: rest) then ([], character :: rest)
    else
      let taken := takeRun inFlow rest
      (character :: taken.1, taken.2)

/-- What lies between two runs. -/
structure Gap where
  /-- What the gap counts as; nothing if the scalar ends here. -/
  folded : List Char
  rest : List Char
  /-- The column behind the gap, if it crosses a line end. -/
  column : Option Nat
deriving Repr

/-- The empty lines at the start of a line, what follows them and the spaces of its line, and its
column; no lines if one opens or closes a document. -/
def readEmptyLines (text : List Char) : Option (List Char) × List Char × Nat :=
  if startsMarker text then (none, text, 0)
  else
    match ink : text.dropWhile (· == ' ') with
    | [] => (some [], [], text.length)
    | character :: rest =>
      have : rest.length < text.length := length_lt_of_dropWhile ink
      if isBreak character then
        let later := readEmptyLines rest
        (later.1.map (breakValue character :: ·), later.2)
      else (some [], character :: rest, text.length - (rest.length + 1))
termination_by text.length

def readGap (text : List Char) : Gap :=
  match text.dropWhile (· == ' ') with
  | [] => ⟨text, [], none⟩
  | character :: rest =>
    if isBreak character then
      match readEmptyLines rest with
      | (some others, behind, column) => ⟨foldBreaks character others, behind, some column⟩
      | (none, behind, column) => ⟨[], behind, some column⟩
    else ⟨text.takeWhile (· == ' '), character :: rest, none⟩

/-! ## Lengths -/

theorem length_takeRun_le (inFlow : Bool) (text : List Char) :
    (takeRun inFlow text).2.length ≤ text.length := by
  induction text with
  | nil => exact Nat.le_refl _
  | cons character rest inductionHypothesis =>
    unfold takeRun
    split
    · exact Nat.le_refl _
    · exact Nat.le_succ_of_le inductionHypothesis

theorem length_readEmptyLines_le (text : List Char) :
    (readEmptyLines text).2.1.length ≤ text.length := by
  fun_induction readEmptyLines text with
  | case1 => exact Nat.le_refl _
  | case2 => exact Nat.zero_le _
  | case3 text _ character rest _ shorter _ later inductionHypothesis =>
    exact Nat.le_trans inductionHypothesis (Nat.le_of_lt shorter)
  | case4 text _ character rest _ shorter _ =>
    rw [List.length_cons]
    exact shorter

/-- A gap that counts as something takes up room. -/
theorem length_readGap_lt {text : List Char} (counts : (readGap text).folded ≠ []) :
    (readGap text).rest.length < text.length := by
  have le := length_dropWhile_le (· == ' ') text
  have whole := List.takeWhile_append_dropWhile (p := (· == ' ')) (l := text)
  have lengths := congrArg List.length whole
  rw [List.length_append] at lengths
  revert counts
  unfold readGap
  split
  · exact fun counts => List.length_pos_iff.mpr counts
  · rename_i character rest ink
    rw [ink, List.length_cons] at le lengths
    have emptyLines := length_readEmptyLines_le rest
    split
    · split <;> rename_i read <;> rw [read] at emptyLines <;>
        exact fun _ => Nat.lt_of_le_of_lt emptyLines le
    · intro counts
      have positive := List.length_pos_iff.mpr counts
      simp only [List.length_cons] at positive ⊢
      omega

/-! ## Scalars -/

/-- A plain scalar, what follows it, and whether the gap behind it crosses a line end. -/
structure Plain where
  value : List Char
  rest : List Char
  broken : Bool
deriving Repr

/-- Reads a plain scalar whose further lines are indented by `margin` columns or more; within a flow
collection any indentation will do. -/
def readPlain (inFlow : Bool) (margin : Nat) (text : List Char) : Plain :=
  let run := takeRun inFlow text
  let gap := readGap run.2
  if more : gap.folded ≠ [] ∧ gap.rest.head? ≠ some '#' ∧
      (inFlow ∨ gap.column.all (margin ≤ ·)) ∧ !endsRun inFlow gap.rest then
    have : gap.rest.length < text.length :=
      Nat.lt_of_lt_of_le (length_readGap_lt more.1) (length_takeRun_le inFlow text)
    let later := readPlain inFlow margin gap.rest
    ⟨run.1 ++ gap.folded ++ later.value, later.rest, later.broken⟩
  else ⟨run.1, gap.rest, gap.column.isSome⟩
termination_by text.length

end HostResolver.Document.Yaml
