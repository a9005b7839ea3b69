import HostResolver.Proofs.Text.Encoding
import HostResolver.Text.Reading

/-!
Files that are decoded block by block against files that are decoded at once.

Owns: that the blocks put together are the file, that the bytes held back between two blocks hold
no whole character, and from these that an encoded text is read whole wherever the blocks end, and
that bytes which encode no text are read up to the block in which no further byte could help.

Does not own: the lines of the text that is read.

The induction is on the blocks that are left. It carries the bytes held back, of which only this
is needed: there is no character to be taken off their front.
-/

namespace HostResolver.Text

open HostResolver.Text.Utf8

/-! ## Blocks -/

theorem flatten_blocksOf (size : Nat) (bytes : List UInt8) :
    (blocksOf size bytes).flatten = bytes := by
  induction bytes using blocksOf.induct size with
  | case1 => rw [blocksOf, List.flatten_nil]
  | case2 byte bytes inductionHypothesis =>
      rw [blocksOf, List.flatten_cons, inductionHypothesis, List.cons_append,
        List.take_append_drop]

theorem flatten_take_blocksOf (size count : Nat) (bytes : List UInt8) :
    ((blocksOf size bytes).take count).flatten = bytes.take (count * (size + 1)) := by
  induction count generalizing bytes with
  | zero => simp
  | succ count inductionHypothesis =>
      cases bytes with
      | nil => simp [blocksOf]
      | cons byte bytes =>
          have total : (count + 1) * (size + 1) = size + count * (size + 1) + 1 := by
            rw [Nat.succ_mul]
            omega
          rw [blocksOf, List.take_succ_cons, List.flatten_cons, inductionHypothesis, total,
            List.take_succ_cons, List.take_add, List.cons_append]

/-! ## Bytes that are held back -/

/-- Whether no character can be taken off the front of bytes. -/
def IsHeld (bytes : List UInt8) : Prop := (decode bytes).text = []

theorem isHeld_nil : IsHeld [] := rfl

/-- No held bytes begin with a whole character. -/
theorem IsHeld.ne_append {bytes : List UInt8} (held : IsHeld bytes) (character : Char)
    (behind : List UInt8) : bytes ≠ String.utf8EncodeChar character ++ behind := by
  intro shape
  have taken := (writes_encodeChar character).decodeFrom_append 0 behind
  rw [IsHeld, decode, shape, taken] at held
  simp [Decoded.extend] at held

/-- The beginning of a character holds no whole one. -/
theorem isHeld_of_incomplete {position found : Nat} {bytes left : List UInt8}
    (stops : Stops position left (.incomplete found bytes)) : IsHeld bytes ∧ left = bytes := by
  cases stops with
  | @incomplete _ more character begun unfinished written =>
      refine ⟨?_, rfl⟩
      obtain ⟨text, rest, ending, shape, decoded, _⟩ := exists_stops 0 bytes
      rw [IsHeld, decode, decoded]
      cases text with
      | nil => rfl
      | cons first others =>
          -- The character taken off the front is the one that is begun, so nothing is unfinished.
          have whole : encode [character] = encode (first :: others) ++ (rest ++ more) := by
            rw [encode_cons, encode_nil, List.append_nil, written.encodeChar_eq,
              ← List.append_assoc, ← shape]
          obtain ⟨later, sameText, behind⟩ := exists_encode_of_append whole
          have nothing : later = [] := by
            have counted := congrArg List.length sameText
            simp only [List.length_cons, List.length_nil, List.length_append] at counted
            exact List.length_eq_zero_iff.1 (by omega)
          rw [nothing, encode_nil, List.append_eq_nil_iff] at behind
          exact absurd behind.2 unfinished

/-- The two bytes that begin a surrogate hold no character. -/
theorem isHeld_of_isCutSurrogate {bytes : List UInt8} (cut : Reading.isCutSurrogate bytes = true) :
    IsHeld bytes := by
  unfold Reading.isCutSurrogate at cut
  split at cut
  · next first second =>
      simp only [Bool.and_eq_true, beq_iff_eq, decide_eq_true_eq] at cut
      obtain ⟨⟨rfl, high⟩, _⟩ := cut
      have broken : (!secondOfThree 0xED second) = true := by
        simp [secondOfThree, high]
      rw [IsHeld, decode, decodeFrom.eq_def]
      simp only [if_pos broken]
      rfl
  · contradiction

theorem eq_nil_of_isHeld {bytes : List UInt8} (held : IsHeld bytes)
    (complete : (decode bytes).ending = .complete) : bytes = [] := by
  have decoded : decodeFrom 0 bytes = ⟨[], .complete⟩ := by
    rw [← held, ← complete]
    rfl
  rw [eq_encode_of_complete decoded, encode_nil]

/-! ## One block -/

namespace Reading

/-- **One step.** A block is decoded up to bytes that are held back, or it fails, and then no bytes
behind it could make a text of it. -/
theorem ofBlocks_cons (carried block : List UInt8) (others : List (List UInt8)) :
    (∃ front kept, IsHeld kept ∧ carried ++ block = encode front ++ kept ∧
        ofBlocks carried (block :: others) = (ofBlocks kept others).precede front) ∨
      ∃ fault, ofBlocks carried (block :: others) = ⟨[], some fault⟩ ∧
        ∀ more text, encode text ≠ carried ++ block ++ more := by
  obtain ⟨front, left, ending, shape, decoded, stops⟩ := exists_stops 0 (carried ++ block)
  rw [ofBlocks]
  simp only [decode, decoded]
  cases ending with
  | complete =>
      cases stops
      exact Or.inl ⟨front, [], isHeld_nil, shape, rfl⟩
  | incomplete found bytes =>
      obtain ⟨held, rfl⟩ := isHeld_of_incomplete stops
      exact Or.inl ⟨front, left, held, shape, rfl⟩
  | faulty fault =>
      have placed : fault.position = (encode front).length := by
        cases stops
        exact Nat.zero_add _
      have dropped : (carried ++ block).drop fault.position = left := by
        rw [shape, placed, List.drop_left]
      simp only [dropped]
      by_cases cut : isCutSurrogate left = true
      · rw [if_pos cut]
        exact Or.inl ⟨front, left, isHeld_of_isCutSurrogate cut, shape, rfl⟩
      · rw [if_neg cut]
        refine Or.inr ⟨fault, rfl, ?_⟩
        intro more text whole
        rw [shape, List.append_assoc] at whole
        obtain ⟨later, _, behind⟩ := exists_encode_of_append whole
        exact encode_ne_of_faulty stops more later behind.symm

/-! ## Encoded texts -/

/-- **Where the blocks end cannot be seen.** An encoded text is read whole and without a fault. -/
theorem ofBlocks_of_encode {carried : List UInt8} {blocks : List (List UInt8)} {text : List Char}
    (held : IsHeld carried) (whole : carried ++ blocks.flatten = encode text) :
    ofBlocks carried blocks = ⟨text, none⟩ := by
  induction blocks generalizing carried text with
  | nil =>
      rw [List.flatten_nil, List.append_nil] at whole
      have decoded := decode_encode text
      rw [← whole] at decoded
      have nothing : text = [] := by
        rw [IsHeld, decoded] at held
        exact held
      rw [ofBlocks, faultAtEnd, decoded, nothing]
  | cons block others inductionHypothesis =>
      rw [List.flatten_cons, ← List.append_assoc] at whole
      rcases ofBlocks_cons carried block others with
        ⟨front, kept, heldAgain, shape, step⟩ | ⟨_, _, hopeless⟩
      · rw [shape, List.append_assoc] at whole
        obtain ⟨later, rfl, behind⟩ := exists_encode_of_append whole.symm
        rw [step, inductionHypothesis heldAgain behind, precede]
      · exact absurd whole.symm (hopeless others.flatten text)

/-! ## Bytes that encode no text -/

/-- Whether a reader that holds bytes back fails at once with the blocks that are left: the file
ends, or no bytes behind the next block could make a text of it. -/
def FailsAt (kept : List UInt8) : List (List UInt8) → Prop
  | [] => kept ≠ []
  | block :: _ => ∀ more text, encode text ≠ kept ++ block ++ more

/-- What a reading says of bytes that are held back and the blocks behind them: without a fault it
is all of their text, otherwise the text of the blocks in front of the one that fails, but for the
bytes that are held back there. -/
def Explains (carried : List UInt8) (blocks : List (List UInt8)) (reading : Reading) : Prop :=
  match reading.fault with
  | none => carried ++ blocks.flatten = encode reading.text
  | some _ => ∃ before after kept, blocks = before ++ after ∧
      carried ++ before.flatten = encode reading.text ++ kept ∧ IsHeld kept ∧ FailsAt kept after

theorem explains_ofBlocks {carried : List UInt8} (held : IsHeld carried)
    (blocks : List (List UInt8)) : Explains carried blocks (ofBlocks carried blocks) := by
  induction blocks generalizing carried with
  | nil =>
      rw [ofBlocks]
      unfold Explains
      cases clean : faultAtEnd carried with
      | none =>
          have complete : (decode carried).ending = .complete := by
            unfold faultAtEnd at clean
            cases found : (decode carried).ending with
            | complete => rfl
            | incomplete position bytes => simp [found] at clean
            | faulty fault => simp [found] at clean
          simp [eq_nil_of_isHeld held complete, encode_nil]
      | some fault =>
          refine ⟨[], [], carried, rfl, by simp [encode_nil], held, ?_⟩
          rintro rfl
          simp [faultAtEnd, decode, decodeFrom] at clean
  | cons block others inductionHypothesis =>
      rcases ofBlocks_cons carried block others with
        ⟨front, kept, heldAgain, shape, step⟩ | ⟨fault, step, hopeless⟩
      · have later := inductionHypothesis heldAgain
        rw [step]
        unfold Explains precede at *
        cases clean : (ofBlocks kept others).fault with
        | none =>
            simp only [clean] at later ⊢
            rw [List.flatten_cons, ← List.append_assoc, shape, List.append_assoc, later,
              encode_append]
        | some fault =>
            simp only [clean] at later ⊢
            obtain ⟨before, after, left, parts, read, heldLeft, fails⟩ := later
            refine ⟨block :: before, after, left, ?_, ?_, heldLeft, fails⟩
            · rw [parts, List.cons_append]
            · rw [List.flatten_cons, ← List.append_assoc, shape, List.append_assoc, read,
                encode_append, List.append_assoc]
      · rw [step]
        exact ⟨[], block :: others, carried, rfl, by simp [encode_nil], held, hopeless⟩

/-! ## Files -/

theorem ofBytes_encode (text : List Char) : ofBytes (encode text) = ⟨text, none⟩ :=
  ofBlocks_of_encode isHeld_nil (flatten_blocksOf _ _)

/-- **A file that is not UTF-8 has a fault.** The text in front of it is that of the whole blocks
before the one that fails, but for bytes that hold no character; and then the file ends, or its
bytes up to the end of the next block begin no encoded text. -/
theorem exists_fault_of_ne_encode {bytes : List UInt8} (invalid : ∀ text, bytes ≠ encode text) :
    ∃ fault count kept, (ofBytes bytes).fault = some fault ∧
      bytes.take (count * blockSize) = encode (ofBytes bytes).text ++ kept ∧ IsHeld kept ∧
      (bytes.length ≤ count * blockSize ∨
        ∀ more text, encode text ≠ bytes.take ((count + 1) * blockSize) ++ more) := by
  have explained := explains_ofBlocks isHeld_nil (blocksOf (blockSize - 1) bytes)
  change Explains [] _ (ofBytes bytes) at explained
  have firstBytes (count : Nat) := flatten_take_blocksOf (blockSize - 1) count bytes
  have size : blockSize - 1 + 1 = blockSize := rfl
  unfold Explains at explained
  cases clean : (ofBytes bytes).fault with
  | none =>
      simp only [clean, flatten_blocksOf, List.nil_append] at explained
      exact absurd explained (invalid _)
  | some fault =>
      simp only [clean, List.nil_append] at explained
      obtain ⟨before, after, kept, parts, shape, held, fails⟩ := explained
      have front := firstBytes before.length
      rw [parts, List.take_left, size] at front
      refine ⟨fault, before.length, kept, rfl, front ▸ shape, held, ?_⟩
      cases after with
      | nil =>
          have whole := flatten_blocksOf (blockSize - 1) bytes
          rw [parts, List.append_nil, front] at whole
          left
          rw [← whole]
          exact List.length_take_le _ _
      | cons block others =>
          right
          intro more text read
          have oneMore := firstBytes (before.length + 1)
          rw [parts, List.take_length_add_append, size, List.take_succ_cons, List.take_zero,
            List.flatten_append, List.flatten_singleton, shape] at oneMore
          rw [← oneMore, List.append_assoc, List.append_assoc] at read
          obtain ⟨later, _, behind⟩ := exists_encode_of_append read
          exact fails more later (by rw [← behind, List.append_assoc])

end Reading

end HostResolver.Text
