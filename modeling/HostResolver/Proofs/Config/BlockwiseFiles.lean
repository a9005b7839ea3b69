import HostResolver.Config.SearchList
import HostResolver.Proofs.Config.RefusedLines
import HostResolver.Proofs.Text.BlockReader

/-!
Configuration files that are read block by block.

Owns: that every reader of a file sees the lines of its decoded text if its bytes are UTF-8, and
what is reported of a file whose bytes are not.

Does not own: the reader of blocks, which `HostResolver.Proofs.Text.BlockReader` follows.
-/

namespace HostResolver.Config

open HostResolver.Document HostResolver.Files HostResolver.Servers HostResolver.Text
  HostResolver.Text.Utf8

variable {tree : FileTree} {path : Path} {bytes : List UInt8}

/-! ## Files in UTF-8 -/

theorem readFile_of_encode {text : List Char}
    (present : tree.bytes? path = .ok (some (encode text))) (book : Book) (order : Order) :
    book.readFile tree order path =
      match Progress.readLines order 1
        ⟨.start path.baseName, book.note (.parsing path.text)⟩ (lines text) with
      | (after, some refusal) =>
        (after.book, some (.badLine path.text refusal.number (String.ofList refusal.line)
          refusal.error))
      | (after, none) => ((after.commit order).book, none) := by
  have sameLines : Reading.lines ⟨text, none⟩ = lines text := rfl
  simp only [Book.readFile_of_bytes present, Reading.ofBytes_encode, Book.readText, sameLines]
  cases Progress.readLines order 1 ⟨.start path.baseName, book.note (.parsing path.text)⟩
    (lines text) with
  | mk after refusal =>
      cases refusal with
      | none => rfl
      | some refusal => rfl

theorem linesAt_of_encode {text : List Char}
    (present : tree.bytes? path = .ok (some (encode text))) :
    linesAt tree path = .ok (lines text) := by
  simp only [linesAt, present, Reading.ofBytes_encode]
  rfl

/-! ## Files with a fault -/

theorem readFile_of_readable {fault : Fault} (present : tree.bytes? path = .ok (some bytes))
    (faulty : (Reading.ofBytes bytes).fault = some fault) (book : Book) (order : Order)
    (readable : ∀ line ∈ surelyEnded (Reading.ofBytes bytes).text, IsReadable line) :
    (book.readFile tree order path).2 =
      some (.undecodable path.text (surelyEnded (Reading.ofBytes bytes).text).length fault) := by
  have sameLines : (Reading.ofBytes bytes).lines = surelyEnded (Reading.ofBytes bytes).text := by
    rw [Reading.lines, faulty]
  have allRead : ∃ after, Progress.readLines order 1
      ⟨.start path.baseName, book.note (.parsing path.text)⟩
      (surelyEnded (Reading.ofBytes bytes).text) = (after, none) :=
    exists_readLines_of_readable readable (usesPort_start _ _) 1
  obtain ⟨after, linesRead⟩ := allRead
  simp only [Book.readFile_of_bytes present, Book.readText, sameLines, linesRead, faulty]

/-- A line that is not readable is reported before the fault. -/
theorem readFile_of_malformed {fault : Fault} (present : tree.bytes? path = .ok (some bytes))
    (faulty : (Reading.ofBytes bytes).fault = some fault) (book : Book) (order : Order)
    {front behind : List (List Char)} {line : List Char}
    (split : surelyEnded (Reading.ofBytes bytes).text = front ++ line :: behind)
    (readable : ∀ earlier ∈ front, IsReadable earlier) (malformed : ¬IsReadable line) :
    ∃ shown error, significant? line = some shown ∧ (book.readFile tree order path).2 =
      some (.badLine path.text (front.length + 1) (String.ofList shown) error) := by
  have sameLines : (Reading.ofBytes bytes).lines = front ++ line :: behind := by
    rw [Reading.lines, faulty]
    exact split
  have stopped : ∃ after shown error, significant? line = some shown ∧ IsCause error ∧
      Progress.readLines order 1 ⟨.start path.baseName, book.note (.parsing path.text)⟩
        (front ++ line :: behind) = (after, some ⟨1 + front.length, shown, error⟩) :=
    exists_readLines_refused readable malformed (usesPort_start _ _) 1 behind
  obtain ⟨after, shown, error, counted, _, linesRead⟩ := stopped
  refine ⟨shown, error, counted, ?_⟩
  simp only [Book.readFile_of_bytes present, Book.readText, sameLines, linesRead, Nat.add_comm]

theorem exists_first_malformed {rows : List (List Char)}
    (malformed : ¬∀ line ∈ rows, IsReadable line) :
    ∃ front line behind, rows = front ++ line :: behind ∧
      (∀ earlier ∈ front, IsReadable earlier) ∧ ¬IsReadable line := by
  induction rows with
  | nil => simp at malformed
  | cons first others inductionHypothesis =>
      by_cases here : IsReadable first
      · have later : ¬∀ line ∈ others, IsReadable line :=
          fun all => malformed (List.forall_mem_cons.2 ⟨here, all⟩)
        obtain ⟨front, line, behind, split, readable, notReadable⟩ := inductionHypothesis later
        exact ⟨first :: front, line, behind, by rw [split, List.cons_append],
          List.forall_mem_cons.2 ⟨here, readable⟩, notReadable⟩
      · exact ⟨[], first, others, rfl, by simp, here⟩

theorem exists_readFile_error {fault : Fault} (present : tree.bytes? path = .ok (some bytes))
    (faulty : (Reading.ofBytes bytes).fault = some fault) (book : Book) (order : Order) :
    ∃ error, (book.readFile tree order path).2 = some error ∧
      error.kind = "ResolverConfigParseError" := by
  by_cases readable : ∀ line ∈ surelyEnded (Reading.ofBytes bytes).text, IsReadable line
  · exact ⟨_, readFile_of_readable present faulty book order readable, rfl⟩
  · obtain ⟨front, line, behind, split, earlier, malformed⟩ := exists_first_malformed readable
    obtain ⟨shown, error, _, refused⟩ :=
      readFile_of_malformed present faulty book order split earlier malformed
    exact ⟨_, refused, rfl⟩

/-! ## Both -/

/-- **Where the blocks end cannot be seen, and no fault is missed.** A file in UTF-8 gives each of
its readers the lines of the whole text, and numbers from one on. Any other file is refused. The
reader of blocks hands out the lines that are ended in the text of the blocks before the one that
fails; if one of them is malformed, the first of those is reported, and otherwise the fault is. -/
theorem readFile_blockwise (present : tree.bytes? path = .ok (some bytes)) :
    (∀ text, bytes = encode text →
        BlockReader.start.run (blocksOf (blockSize - 1) bytes) = (lines text, none) ∧
        (∀ (book : Book) (order : Order), book.readFile tree order path =
          match Progress.readLines order 1
            ⟨.start path.baseName, book.note (.parsing path.text)⟩ (lines text) with
          | (after, some refusal) =>
            (after.book, some (.badLine path.text refusal.number (String.ofList refusal.line)
              refusal.error))
          | (after, none) => ((after.commit order).book, none)) ∧
        (∀ environment, Options.ofFile tree path environment =
          .ok (Options.ofLines (lines text) environment)) ∧
        SearchList.ofFile tree path = .ok (SearchList.ofLines (lines text))) ∧
      ((∀ text, bytes ≠ encode text) → ∃ text fault,
        BlockReader.start.run (blocksOf (blockSize - 1) bytes) = (surelyEnded text, some fault) ∧
        (∃ count kept, bytes.take (count * blockSize) = encode text ++ kept ∧
          (∀ character behind, kept ≠ String.utf8EncodeChar character ++ behind) ∧
          (bytes.length ≤ count * blockSize ∨
            ∀ more other, encode other ≠ bytes.take ((count + 1) * blockSize) ++ more)) ∧
        ∀ (book : Book) (order : Order),
          (∃ error, (book.readFile tree order path).2 = some error ∧
            error.kind = "ResolverConfigParseError") ∧
          ((∀ line ∈ surelyEnded text, IsReadable line) →
            (book.readFile tree order path).2 =
              some (.undecodable path.text (surelyEnded text).length fault)) ∧
          ∀ front line behind, surelyEnded text = front ++ line :: behind →
            (∀ earlier ∈ front, IsReadable earlier) → ¬IsReadable line →
            ∃ shown error, significant? line = some shown ∧
              (book.readFile tree order path).2 =
                some (.badLine path.text (front.length + 1) (String.ofList shown) error)) := by
  constructor
  · rintro text rfl
    have read := linesAt_of_encode present
    refine ⟨?_, fun book order => readFile_of_encode present book order, ?_, ?_⟩
    · rw [run_blocksOf, Reading.ofBytes_encode]
      rfl
    · intro environment
      rw [Options.ofFile, read]
      rfl
    · rw [SearchList.ofFile, read]
      rfl
  · intro invalid
    obtain ⟨fault, count, kept, faulty, shape, held, fails⟩ :=
      Reading.exists_fault_of_ne_encode invalid
    refine ⟨(Reading.ofBytes bytes).text, fault, ?_, ⟨count, kept, shape, held.ne_append, fails⟩,
      ?_⟩
    · rw [run_blocksOf, Reading.lines, faulty]
    · intro book order
      refine ⟨exists_readFile_error present faulty book order,
        readFile_of_readable present faulty book order, ?_⟩
      intro front line behind split readable malformed
      exact readFile_of_malformed present faulty book order split readable malformed

/-! ### Samples -/

def oneFile (bytes : List UInt8) : FileTree where
  entries := [(["r"], .file bytes .full)]

theorem bytes?_oneFile (bytes : List UInt8) :
    (oneFile bytes).bytes? ⟨"", ["r"]⟩ = .ok (some bytes) :=
  FileTree.bytes?_of_walk (by decide) (by decide) (by decide) rfl rfl rfl

/-- One byte less than a block. -/
def padding : List Char := List.replicate (blockSize - 1) '#'

theorem encode_padding : encode padding = List.replicate (blockSize - 1) 0x23 := by
  have oneByte : String.utf8EncodeChar '#' = [0x23] := by decide
  unfold padding
  generalize blockSize - 1 = count
  induction count with
  | zero => rfl
  | succ count inductionHypothesis =>
      rw [List.replicate_succ, encode_cons, inductionHypothesis, oneByte]
      rfl

/-- The first block ends behind the first byte that follows the padding. -/
theorem take_padded (first : UInt8) (behind : List UInt8) :
    (encode padding ++ first :: behind).take blockSize = encode padding ++ [first] := by
  have counted : (encode padding).length = blockSize - 1 := by
    rw [encode_padding, List.length_replicate]
  have oneMore : blockSize - (blockSize - 1) = 1 := by decide
  rw [List.take_append, counted, oneMore, List.take_succ_cons, List.take_zero,
    List.take_of_length_le (by rw [counted]; exact Nat.sub_le _ _)]

/-- The padding belongs to the first line. -/
theorem ofText_padded {behind first : List Char} {others : List (List Char)}
    (cut : Cut.ofText behind = ⟨first :: others, []⟩) :
    Cut.ofText (padding ++ behind) = ⟨(padding ++ first) :: others, []⟩ := by
  unfold padding
  generalize blockSize - 1 = count
  induction count with
  | zero => exact cut
  | succ count inductionHypothesis =>
      have goesOn (text : List Char) : Cut.ofText ('#' :: text) = (Cut.ofText text).extend '#' :=
        rfl
      rw [List.replicate_succ, List.cons_append, goesOn, inductionHypothesis]
      rfl

/-- The border of the first block cuts a character in two. -/
def cutCharacter : List Char := padding ++ "ß\nnameserver ::1\n".toList

/-- The border of the first block cuts a line end in two. -/
def cutLineEnd : List Char := padding ++ "\r\nnameserver ::1\n".toList

/-- The border of the first block cuts off a byte that begins a character, and no character is
there. -/
def brokenBytes : List UInt8 := encode padding ++ [0xC3, 0x23]

theorem brokenBytes_ne (text : List Char) : brokenBytes ≠ encode text := by
  intro whole
  have decoded := congrArg Decoded.ending (decode_encode text)
  rw [← whole, decode, brokenBytes, decodeFrom_encode_append] at decoded
  have faulty : (decodeFrom (0 + (encode padding).length) [0xC3, 0x23]).ending =
      .faulty ⟨0 + (encode padding).length, [0xC3], .invalidContinuation⟩ := rfl
  cases faulty.symm.trans decoded

/-- A character and a line end are whole that a border cuts, and a file is refused that has no
character at its border. -/
theorem readFile_blockwise_met :
    (encode cutCharacter).take blockSize = encode padding ++ [0xC3] ∧
      SearchList.ofFile (oneFile (encode cutCharacter)) ⟨"", ["r"]⟩ =
        .ok (SearchList.ofLines [padding ++ ['ß'], "nameserver ::1".toList]) ∧
      (encode cutLineEnd).take blockSize = encode padding ++ [0x0D] ∧
      SearchList.ofFile (oneFile (encode cutLineEnd)) ⟨"", ["r"]⟩ =
        .ok (SearchList.ofLines [padding, "nameserver ::1".toList]) ∧
      brokenBytes.take blockSize = encode padding ++ [0xC3] ∧
      ∃ error, (Book.empty.readFile (oneFile brokenBytes) .failover ⟨"", ["r"]⟩).2 = some error ∧
        error.kind = "ResolverConfigParseError" := by
  have characterCut : Cut.ofText "ß\nnameserver ::1\n".toList =
      ⟨[['ß'], "nameserver ::1".toList], []⟩ := by decide
  have characterLines : lines cutCharacter = [padding ++ ['ß'], "nameserver ::1".toList] := by
    rw [lines, cutCharacter, ofText_padded characterCut]
    rfl
  have characterBytes : encode "ß\nnameserver ::1\n".toList =
      0xC3 :: 0x9F :: encode "\nnameserver ::1\n".toList := by decide
  have endCut : Cut.ofText "\r\nnameserver ::1\n".toList =
      ⟨[[], "nameserver ::1".toList], []⟩ := by decide
  have endLines : lines cutLineEnd = [padding, "nameserver ::1".toList] := by
    rw [lines, cutLineEnd, ofText_padded endCut, List.append_nil]
    rfl
  have endBytes : encode "\r\nnameserver ::1\n".toList =
      0x0D :: encode "\nnameserver ::1\n".toList := by decide
  refine ⟨?_, ?_, ?_, ?_, take_padded 0xC3 [0x23], ?_⟩
  · rw [cutCharacter, encode_append, characterBytes, take_padded]
  · rw [← characterLines]
    exact ((readFile_blockwise (bytes?_oneFile _)).1 cutCharacter rfl).2.2.2
  · rw [cutLineEnd, encode_append, endBytes, take_padded]
  · rw [← endLines]
    exact ((readFile_blockwise (bytes?_oneFile _)).1 cutLineEnd rfl).2.2.2
  · obtain ⟨_, _, _, _, refused⟩ := (readFile_blockwise (bytes?_oneFile _)).2 brokenBytes_ne
    exact (refused Book.empty .failover).1

end HostResolver.Config
