import HostResolver.Proofs.Text.Blocks
import HostResolver.Proofs.Text.Fields
import Mathlib.Data.List.Basic

/-!
A reader of lines that is handed a file block by block.

Owns: the reader as a machine, whose state holds the bytes of a cut character, a carriage return at
the end of what is decoded, and the line that is not ended yet; the state it is in behind a text,
computed from the text alone; and from these that it hands out the lines of the reading of the
blocks, and ends with its fault.

Does not own: what the text of the blocks is.
-/

namespace HostResolver.Text

/-! ## Line ends -/

theorem withLineFeeds_return {text : List Char} (apart : text.head? ≠ some '\n') :
    withLineFeeds ('\r' :: text) = '\n' :: withLineFeeds text := by
  rw [withLineFeeds.eq_3]
  rintro rest rfl
  exact apart rfl

/-- Line ends are found on either side of a border, unless it cuts one in two. -/
theorem withLineFeeds_append {front behind : List Char}
    (apart : front.getLast? ≠ some '\r' ∨ behind.head? ≠ some '\n') :
    withLineFeeds (front ++ behind) = withLineFeeds front ++ withLineFeeds behind := by
  induction front using withLineFeeds.induct with
  | case1 => rfl
  | case2 text inductionHypothesis =>
      have later : text.getLast? ≠ some '\r' ∨ behind.head? ≠ some '\n' := by
        cases text with
        | nil => simp
        | cons first others => simpa [List.getLast?_cons] using apart
      rw [List.cons_append, List.cons_append, withLineFeeds, withLineFeeds,
        inductionHypothesis later, List.cons_append]
  | case3 text single inductionHypothesis =>
      cases text with
      | nil =>
          have notFeed : behind.head? ≠ some '\n' := by simpa using apart
          rw [List.singleton_append, withLineFeeds_return notFeed, withLineFeeds_return (by simp)]
          rfl
      | cons first others =>
          have notFeed : first ≠ '\n' := by
            rintro rfl
            exact single others rfl
          have later : (first :: others).getLast? ≠ some '\r' ∨ behind.head? ≠ some '\n' := by
            simpa [List.getLast?_cons] using apart
          rw [List.cons_append, withLineFeeds_return (by simpa using notFeed),
            withLineFeeds_return (by simpa using notFeed), inductionHypothesis later,
            List.cons_append]
  | case4 character text notPair notReturn inductionHypothesis =>
      have later : text.getLast? ≠ some '\r' ∨ behind.head? ≠ some '\n' := by
        cases text with
        | nil => simp
        | cons first others => simpa [List.getLast?_cons] using apart
      have plain (rest : List Char) :
          withLineFeeds (character :: rest) = character :: withLineFeeds rest := by
        rw [withLineFeeds.eq_4 _ _ (fun _ pair _ => notReturn pair) notReturn]
      rw [List.cons_append, plain, plain, inductionHypothesis later, List.cons_append]

theorem fields_withLineFeeds (text : List Char) :
    fields '\n' (withLineFeeds text) = (Cut.ofText text).ended ++ [(Cut.ofText text).rest] := by
  induction text using Cut.ofText.induct with
  | case1 => rfl
  | case2 text inductionHypothesis =>
      rw [withLineFeeds, fields, if_pos rfl, inductionHypothesis, Cut.ofText]
      rfl
  | case3 text single inductionHypothesis =>
      rw [withLineFeeds.eq_3 _ single, fields, if_pos rfl, inductionHypothesis,
        Cut.ofText.eq_3 _ single]
      rfl
  | case4 text inductionHypothesis =>
      have plain : withLineFeeds ('\n' :: text) = '\n' :: withLineFeeds text := by
        rw [withLineFeeds.eq_4 _ _ (by simp) (by simp)]
      rw [plain, fields, if_pos rfl, inductionHypothesis, Cut.ofText.eq_4]
      rfl
  | case5 character text notPair notReturn notFeed inductionHypothesis =>
      rw [withLineFeeds.eq_4 _ _ (fun _ pair _ => notReturn pair) notReturn, fields,
        if_neg notFeed, inductionHypothesis,
        Cut.ofText.eq_5 _ _ (fun _ pair _ => notReturn pair) notReturn notFeed]
      generalize Cut.ofText text = cut
      cases cut with
      | mk ended rest => cases ended <;> rfl

/-- The text but for a carriage return at its end. -/
def settled (text : List Char) : List Char :=
  if text.getLast? = some '\r' then text.dropLast else text

theorem settled_of_return {text : List Char} (held : text.getLast? = some '\r') :
    settled text ++ ['\r'] = text := by
  have nonempty : text ≠ [] := by
    rintro rfl
    simp at held
  rw [settled, if_pos held]
  rw [List.getLast?_eq_some_getLast nonempty, Option.some.injEq] at held
  rw [← held, List.dropLast_concat_getLast]

theorem surelyEnded_eq (text : List Char) :
    surelyEnded text = (Cut.ofText (settled text)).ended := by
  unfold surelyEnded settled
  by_cases held : text.getLast? = some '\r'
  · rw [if_pos held, if_pos (by simpa using held)]
  · rw [if_neg held, if_neg (by simpa using held)]

/-! ## The reader -/

/-- What a reader keeps between two blocks. -/
structure BlockReader where
  /-- The bytes that the decoder holds back. -/
  carried : List UInt8
  /-- Whether a carriage return is held back. -/
  heldReturn : Bool
  /-- The lines that are handed out. -/
  ended : List (List Char)
  unfinished : List Char
deriving DecidableEq

namespace BlockReader

def start : BlockReader := ⟨[], false, [], []⟩

/-- Puts characters behind the unfinished line and hands out the lines that they end. -/
def scan (reader : BlockReader) (characters : List Char) : BlockReader :=
  let pieces := fields '\n' (reader.unfinished ++ characters)
  ⟨reader.carried, reader.heldReturn, reader.ended ++ pieces.dropLast, pieces.getLast?.getD []⟩

/-- Takes decoded text up behind a carriage return that is held back, and holds back the one at the
end of the text. Where nothing is decoded, nothing changes. -/
def takeUp (reader : BlockReader) (text : List Char) : BlockReader :=
  if text.isEmpty then reader
  else
    let whole := if reader.heldReturn then '\r' :: text else text
    if whole.getLast? = some '\r' then
      { reader.scan (withLineFeeds whole.dropLast) with heldReturn := true }
    else { reader.scan (withLineFeeds whole) with heldReturn := false }

/-- The lines and the fault with which a file ends. A carriage return that is held back ends a line,
and what stands behind the last line end is a line unless it is empty. -/
def finish (reader : BlockReader) : List (List Char) × Option Utf8.Fault :=
  match Reading.faultAtEnd reader.carried with
  | some fault => (reader.ended, some fault)
  | none =>
    let last := if reader.heldReturn then reader.scan ['\n'] else reader
    (if last.unfinished.isEmpty then last.ended else last.ended ++ [last.unfinished], none)

/-- What the decoder makes of a block: a text, and the bytes that it holds back. -/
def decodeBlock (carried block : List UInt8) : Except Utf8.Fault (List Char × List UInt8) :=
  let bytes := carried ++ block
  let decoded := Utf8.decode bytes
  match decoded.ending with
  | .complete => .ok (decoded.text, [])
  | .incomplete _ rest => .ok (decoded.text, rest)
  | .faulty fault =>
    let rest := bytes.drop fault.position
    if Reading.isCutSurrogate rest then .ok (decoded.text, rest) else .error fault

/-- Reads blocks to the end of the file or to the first fault, and gives the lines that are handed
out. -/
def run (reader : BlockReader) : List (List UInt8) → List (List Char) × Option Utf8.Fault
  | [] => reader.finish
  | block :: blocks =>
    match decodeBlock reader.carried block with
    | .ok (text, kept) => ({ reader with carried := kept }.takeUp text).run blocks
    | .error fault => (reader.ended, some fault)

/-- The state behind a text, computed from the text alone. -/
def behind (carried : List UInt8) (text : List Char) : BlockReader :=
  let cut := Cut.ofText (settled text)
  ⟨carried, text.getLast? == some '\r', cut.ended, cut.rest⟩

/-! ## One block -/

theorem ofText_append (reader : BlockReader) {text more : List Char}
    (handedOut : Cut.ofText text = ⟨reader.ended, reader.unfinished⟩)
    (apart : text.getLast? ≠ some '\r' ∨ more.head? ≠ some '\n') :
    Cut.ofText (text ++ more) =
      ⟨(reader.scan (withLineFeeds more)).ended,
        (reader.scan (withLineFeeds more)).unfinished⟩ := by
  have front := fields_withLineFeeds text
  have whole := fields_withLineFeeds (text ++ more)
  rw [handedOut] at front
  rw [withLineFeeds_append apart, fields_append front] at whole
  have nonempty := fields_ne_nil '\n' (reader.unfinished ++ withLineFeeds more)
  have last : (reader.scan (withLineFeeds more)).unfinished =
      (fields '\n' (reader.unfinished ++ withLineFeeds more)).getLast nonempty := by
    unfold scan
    simp only [List.getLast?_eq_some_getLast nonempty, Option.getD_some]
  rw [← List.dropLast_concat_getLast nonempty, ← List.append_assoc,
    List.append_singleton_inj] at whole
  rw [last, whole.2]
  unfold scan
  simp only [whole.1]

/-- The text of a block behind the carriage return that is held back. -/
def joined (heldReturn : Bool) (text : List Char) : List Char :=
  if heldReturn then '\r' :: text else text

theorem takeUp_of_ne_nil (reader : BlockReader) {text : List Char} (nonempty : text ≠ []) :
    reader.takeUp text =
      { reader.scan (withLineFeeds (settled (joined reader.heldReturn text))) with
        heldReturn := (joined reader.heldReturn text).getLast? == some '\r' } := by
  unfold takeUp settled
  rw [if_neg (by simpa using nonempty)]
  change (if (joined reader.heldReturn text).getLast? = some '\r' then _ else _) = _
  by_cases held : (joined reader.heldReturn text).getLast? = some '\r'
  · rw [if_pos held, if_pos held, held]
    rfl
  · rw [if_neg held, if_neg held, beq_eq_false_iff_ne.2 held]
    rfl

theorem settled_append (text : List Char) {more : List Char} (nonempty : more ≠ []) :
    settled (text ++ more) = text ++ settled more := by
  unfold settled
  rw [List.getLast?_append_of_ne_nil text nonempty, List.dropLast_append_of_ne_nil nonempty]
  split <;> rfl

/-- **One step.** The state behind a text goes over into the state behind more text. -/
theorem takeUp_behind (carried : List UInt8) (text more : List Char) :
    (behind carried text).takeUp more = behind carried (text ++ more) := by
  by_cases nothing : more = []
  · rw [nothing, List.append_nil]
    rfl
  -- What is scanned is `more`, behind the carriage return if one is held back: it follows on the
  -- settled part of the text, and no line end is cut in two there.
  have rejoined : ∃ whole, joined (behind carried text).heldReturn more = whole ∧ whole ≠ [] ∧
      settled text ++ whole = text ++ more ∧
      ((settled text).getLast? ≠ some '\r' ∨ (settled whole).head? ≠ some '\n') := by
    by_cases held : text.getLast? = some '\r'
    · refine ⟨'\r' :: more, ?_, by simp, ?_, Or.inr ?_⟩
      · exact if_pos (beq_iff_eq.2 held)
      · rw [← List.singleton_append, ← List.append_assoc, settled_of_return held]
      · rw [← List.singleton_append, settled_append _ nothing]
        simp
    · have kept : settled text = text := if_neg held
      refine ⟨more, if_neg (by simpa [behind] using held), nothing, by rw [kept], Or.inl ?_⟩
      rw [kept]
      exact held
  obtain ⟨whole, isJoined, nonempty, same, apart⟩ := rejoined
  have cut := ofText_append (behind carried text) rfl apart
  rw [← settled_append _ nonempty, same] at cut
  have sameEnd : whole.getLast? = (text ++ more).getLast? := by
    rw [← same, List.getLast?_append_of_ne_nil _ nonempty]
  rw [takeUp_of_ne_nil _ nothing, isJoined, sameEnd]
  unfold behind at cut ⊢
  rw [cut]
  rfl

/-! ## Runs -/

theorem finish_behind (carried : List UInt8) (text : List Char) :
    (behind carried text).finish =
      (Reading.lines ⟨text, Reading.faultAtEnd carried⟩, Reading.faultAtEnd carried) := by
  have same : (behind carried text).carried = carried := rfl
  unfold finish Reading.lines
  rw [same]
  cases Reading.faultAtEnd carried with
  | some fault =>
      rw [surelyEnded_eq]
      rfl
  | none =>
      by_cases held : text.getLast? = some '\r'
      · have heldBack : (behind carried text).heldReturn = true := beq_iff_eq.2 held
        have cut := ofText_append (behind carried text) rfl
          (Or.inr (by simp) : (settled text).getLast? ≠ some '\r' ∨ ['\r'].head? ≠ some '\n')
        rw [settled_of_return held] at cut
        simp only [heldBack, if_true, lines, Cut.lines, cut]
        rfl
      · have released : (behind carried text).heldReturn = false := beq_eq_false_iff_ne.2 held
        have kept : settled text = text := if_neg held
        have ended : (behind carried text).ended = (Cut.ofText text).ended := by rw [behind, kept]
        have unfinished : (behind carried text).unfinished = (Cut.ofText text).rest := by
          rw [behind, kept]
        simp only [released, Bool.false_eq_true, if_false, lines, Cut.lines, ended, unfinished]

theorem ofBlocks_of_decodeBlock (carried block : List UInt8) (others : List (List UInt8)) :
    Reading.ofBlocks carried (block :: others) =
      match decodeBlock carried block with
      | .ok (text, kept) => (Reading.ofBlocks kept others).precede text
      | .error fault => ⟨[], some fault⟩ := by
  rw [Reading.ofBlocks, decodeBlock]
  cases (Utf8.decode (carried ++ block)).ending with
  | complete => rfl
  | incomplete position rest => rfl
  | faulty fault =>
      simp only
      split <;> rfl

/-- **A run.** The reader hands out the lines of the reading of its blocks, and ends with its
fault. -/
theorem run_behind (carried : List UInt8) (text : List Char) (blocks : List (List UInt8)) :
    (behind carried text).run blocks =
      (((Reading.ofBlocks carried blocks).precede text).lines,
        (Reading.ofBlocks carried blocks).fault) := by
  induction blocks generalizing carried text with
  | nil =>
      rw [run, finish_behind, Reading.ofBlocks, Reading.precede, List.append_nil]
  | cons block others inductionHypothesis =>
      have same : (behind carried text).carried = carried := rfl
      rw [run, ofBlocks_of_decodeBlock, same]
      cases decodeBlock carried block with
      | error fault =>
          simp only [Reading.precede, List.append_nil, Reading.lines, surelyEnded_eq]
          rfl
      | ok decoded =>
          obtain ⟨front, kept⟩ := decoded
          have kepts : { behind carried text with carried := kept } = behind kept text := rfl
          simp only [kepts, takeUp_behind, inductionHypothesis, Reading.precede,
            List.append_assoc]

end BlockReader

/-- **Reading block by block gives the lines of a file.** -/
theorem run_blocksOf (bytes : List UInt8) :
    BlockReader.start.run (blocksOf (blockSize - 1) bytes) =
      ((Reading.ofBytes bytes).lines, (Reading.ofBytes bytes).fault) :=
  BlockReader.run_behind [] [] _

end HostResolver.Text
