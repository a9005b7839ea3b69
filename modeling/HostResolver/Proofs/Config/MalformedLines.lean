import HostResolver.Proofs.Config.BlockwiseFiles

/-!
Malformed lines of configuration files.

Owns: which lines are malformed, by their words alone, that every state which the reading of a file
comes to refuses exactly these, each for the same cause, and that of a file in UTF-8 the first one
of them is reported.

Does not own: files that are not UTF-8.
-/

namespace HostResolver.Config

open HostResolver.Address HostResolver.Document HostResolver.Files HostResolver.Servers
  HostResolver.Text HostResolver.Text.Utf8

variable {order : Order}

/-! ## Malformed lines -/

/-- A label asks for an argument and has none, or one that cannot be read. -/
inductive IsMalformed (line : List Char) : Prop where
  | noArgument {label : List Char} (split : words line = [label])
      (asks : String.ofList label ∈ ["nameserver", "domain", "port"])
  | noServer {label value : List Char} {others : List (List Char)} {error : NameserverError}
      (split : words line = label :: value :: others)
      (labelled : String.ofList label = "nameserver")
      (refused : Nameserver.readEndpoint value (.int dnsPort.val) = .error error)
  | noPort {label digits : List Char} {others : List (List Char)} {error : PortError}
      (split : words line = label :: digits :: others) (labelled : String.ofList label = "port")
      (refused : Port.read digits = .error error)

theorem not_isAccepted_of_isMalformed {line : List Char} (malformed : IsMalformed line) :
    ¬IsAccepted line := by
  intro accepted
  cases malformed with
  | noArgument split asks => exact not_isAccepted_of_bare split asks accepted
  | noServer split named refused =>
      obtain ⟨value, written, argument, valueRead⟩ :=
        accepted.nameserver (named ▸ label?_of_words split)
      rw [argument?_of_words split named, Option.some.injEq] at argument
      subst argument
      rw [Nameserver.readEndpoint_of_read valueRead] at refused
      contradiction
  | noPort split named refused =>
      obtain ⟨digits, port, argument, portRead⟩ := accepted.port (named ▸ label?_of_words split)
      rw [argument?_of_words split named, Option.some.injEq] at argument
      subst argument
      rw [portRead] at refused
      contradiction

/-- A label that asks for an argument has one, unless its line is malformed. -/
theorem exists_argument {line : List Char} {label : String} (wellFormed : ¬IsMalformed line)
    (asks : label ∈ ["nameserver", "domain", "port"]) (labelled : label? line = some label) :
    ∃ first value others, words line = first :: value :: others ∧ String.ofList first = label := by
  rw [label?] at labelled
  cases split : words line with
  | nil => simp [split] at labelled
  | cons first rest =>
      rw [split, List.head?_cons, Option.map_some, Option.some.injEq] at labelled
      cases rest with
      | nil => exact absurd (.noArgument split (labelled ▸ asks)) wellFormed
      | cons value others => exact ⟨first, value, others, rfl, labelled⟩

theorem isAccepted_of_not_isMalformed {line : List Char} (wellFormed : ¬IsMalformed line) :
    IsAccepted line := by
  refine ⟨?_, ?_, ?_⟩
  · intro labelled
    obtain ⟨first, value, others, split, named⟩ := exists_argument wellFormed (by simp) labelled
    cases valueRead : Nameserver.read value with
    | ok written => exact ⟨value, written, argument?_of_words split named, valueRead⟩
    | error error =>
        have refused := Nameserver.readEndpoint_of_refused valueRead (.int dnsPort.val)
        exact absurd (.noServer split named refused) wellFormed
  · intro labelled
    obtain ⟨first, name, others, split, named⟩ := exists_argument wellFormed (by simp) labelled
    exact ⟨name, argument?_of_words split named⟩
  · intro labelled
    obtain ⟨first, digits, others, split, named⟩ := exists_argument wellFormed (by simp) labelled
    cases portRead : Port.read digits with
    | ok port => exact ⟨digits, port, argument?_of_words split named, portRead⟩
    | error error => exact absurd (.noPort split named portRead) wellFormed

theorem isMalformed_iff {line : List Char} : IsMalformed line ↔ ¬IsAccepted line := by
  constructor
  · exact not_isAccepted_of_isMalformed
  · intro refused
    apply Classical.byContradiction
    exact fun wellFormed => refused (isAccepted_of_not_isMalformed wellFormed)

/-- Whether a line of a file counts and is malformed when it is trimmed. -/
def IsMalformedRow (rawLine : List Char) : Prop :=
  counts (trim rawLine) = true ∧ IsMalformed (trim rawLine)

theorem isMalformedRow_iff {rawLine : List Char} :
    IsMalformedRow rawLine ↔ ¬IsReadable rawLine := by
  have readable_iff :
      IsReadable rawLine ↔ (counts (trim rawLine) = true → IsAccepted (trim rawLine)) := by
    simp only [IsReadable, significant?_eq_guard, Option.guard_eq_some_iff]
    constructor
    · intro readable counted
      exact readable _ ⟨rfl, counted⟩
    · rintro accepted line ⟨rfl, counted⟩
      exact accepted counted
  rw [IsMalformedRow, isMalformed_iff, readable_iff, Classical.not_imp]

theorem readable_of_wellFormed {rows : List (List Char)}
    (wellFormed : ∀ row ∈ rows, ¬IsMalformedRow row) : ∀ row ∈ rows, IsReadable row := by
  intro row member
  have notMalformed := wellFormed row member
  rw [isMalformedRow_iff] at notMalformed
  exact Classical.not_not.1 notMalformed

/-! ## States of the reading -/

theorem usesPort_of_readLines {rawLines : List (List Char)} {number : Nat}
    {before after : Progress} {refusal : Option Progress.Refusal} (portInUse : UsesPort before)
    (linesRead : Progress.readLines order number before rawLines = (after, refusal)) :
    UsesPort after := by
  induction rawLines generalizing number before with
  | nil =>
      rw [Progress.readLines, Prod.mk.injEq] at linesRead
      exact linesRead.1 ▸ portInUse
  | cons rawLine rest inductionHypothesis =>
      cases firstLine order number before rawLine rest with
      | passed _ goesOn => exact inductionHypothesis portInUse (goesOn.symm.trans linesRead)
      | read _ lineRead goesOn =>
          exact inductionHypothesis (usesPort_of_readLine portInUse lineRead)
            (goesOn.symm.trans linesRead)
      | refused _ _ stops =>
          rw [stops, Prod.mk.injEq] at linesRead
          exact linesRead.1 ▸ portInUse

/-- The state in which the reading stops is the one that refuses the line. -/
theorem readLine_of_refusal {rawLines : List (List Char)} {number : Nat}
    {before after : Progress} {refusal : Progress.Refusal}
    (linesRead : Progress.readLines order number before rawLines = (after, some refusal)) :
    after.readLine order refusal.line = .error refusal.error := by
  induction rawLines generalizing number before with
  | nil => simp [Progress.readLines] at linesRead
  | cons rawLine rest inductionHypothesis =>
      cases firstLine order number before rawLine rest with
      | passed _ goesOn => exact inductionHypothesis (goesOn.symm.trans linesRead)
      | read _ _ goesOn => exact inductionHypothesis (goesOn.symm.trans linesRead)
      | refused _ lineRead stops =>
          rw [stops, Prod.mk.injEq, Option.some.injEq] at linesRead
          obtain ⟨rfl, rfl⟩ := linesRead
          exact lineRead

/-- What a line is refused for does not depend on the state, as long as the port in use is one. -/
theorem readLine_error_congr {left right : Progress} {leftOrder rightOrder : Order}
    {line : List Char} {error : LineError} (leftPort : UsesPort left) (rightPort : UsesPort right)
    (refused : left.readLine leftOrder line = .error error) :
    right.readLine rightOrder line = .error error := by
  obtain ⟨leftInUse, leftIsPort⟩ := leftPort
  obtain ⟨rightInUse, rightIsPort⟩ := rightPort
  rw [Progress.readLine] at refused ⊢
  cases asked : Directive.ofLine line with
  | error cause => simpa only [asked] using refused
  | ok directive =>
      simp only [asked] at refused ⊢
      cases directive with
      | nameserver value =>
          rw [Progress.apply, leftIsPort] at refused
          rw [Progress.apply, rightIsPort]
          cases valueRead : Nameserver.read value with
          | ok written => simp [Nameserver.readEndpoint_of_read valueRead] at refused
          | error cause =>
              simp only [Nameserver.readEndpoint_of_refused valueRead] at refused ⊢
              exact refused
      | domain name => simp [Progress.apply] at refused
      | port digits =>
          rw [Progress.apply] at refused ⊢
          cases portRead : Port.read digits with
          | ok port => simp [portRead] at refused
          | error cause => simpa only [portRead] using refused
      | sortlist => simp [Progress.apply] at refused
      | other => simp [Progress.apply] at refused

/-- A line that counts is refused exactly if it is malformed. -/
theorem readLine_refused_iff {progress : Progress} {rawLine line : List Char}
    (portInUse : UsesPort progress) (counted : significant? rawLine = some line) :
    (∃ error, progress.readLine order line = .error error) ↔ IsMalformed line := by
  rw [isMalformed_iff]
  obtain ⟨word, rest, worded⟩ := exists_firstWord?_of_significant? counted
  cases lineRead : progress.readLine order line with
  | error error => simp [(refused_of_readLine portInUse worded lineRead).2]
  | ok next =>
      obtain ⟨inUse, isPort⟩ := portInUse
      simp [(lineEffect_of_readLine isPort lineRead).accepted]

/-! ## Files -/

/-- Whether the reading of a file comes to a state: it starts with a name and whatever is filed, and
lines have been read up to the first one that is refused. -/
def IsReached (order : Order) (progress : Progress) : Prop :=
  ∃ name book number rawLines refusal,
    Progress.readLines order number ⟨.start name, book⟩ rawLines = (progress, refusal)

theorem usesPort_of_isReached {progress : Progress} (reached : IsReached order progress) :
    UsesPort progress := by
  obtain ⟨name, book, number, rawLines, refusal, linesRead⟩ := reached
  exact usesPort_of_readLines (usesPort_start name book) linesRead

variable {tree : FileTree} {path : Path} {text : List Char}

theorem readFile_of_wellFormed (present : tree.bytes? path = .ok (some (encode text)))
    (book : Book) (order : Order) (wellFormed : ∀ rawLine ∈ lines text, ¬IsMalformedRow rawLine) :
    (book.readFile tree order path).2 = none := by
  have allRead : ∃ after, Progress.readLines order 1
      ⟨.start path.baseName, book.note (.parsing path.text)⟩ (lines text) = (after, none) :=
    exists_readLines_of_readable (readable_of_wellFormed wellFormed) (usesPort_start _ _) 1
  obtain ⟨after, linesRead⟩ := allRead
  rw [readFile_of_encode present, linesRead]

/-- The first malformed line is reported, for what every state of the reading refuses it. -/
theorem readFile_of_first_malformed (present : tree.bytes? path = .ok (some (encode text)))
    (book : Book) (order : Order) {front behind : List (List Char)} {rawLine : List Char}
    (split : lines text = front ++ rawLine :: behind)
    (wellFormed : ∀ earlier ∈ front, ¬IsMalformedRow earlier) (malformed : IsMalformedRow rawLine) :
    ∃ cause, (book.readFile tree order path).2 =
        some (.badLine path.text (front.length + 1) (String.ofList (trim rawLine)) cause) ∧
      ∀ anyOrder progress, IsReached anyOrder progress →
        progress.readLine anyOrder (trim rawLine) = .error cause := by
  have started := usesPort_start path.baseName (book.note (.parsing path.text))
  have stopped : ∃ after line cause, significant? rawLine = some line ∧ IsCause cause ∧
      Progress.readLines order 1 ⟨.start path.baseName, book.note (.parsing path.text)⟩
        (front ++ rawLine :: behind) = (after, some ⟨1 + front.length, line, cause⟩) :=
    exists_readLines_refused (readable_of_wellFormed wellFormed) (isMalformedRow_iff.1 malformed)
      started 1 behind
  obtain ⟨after, line, cause, counted, _, linesRead⟩ := stopped
  rw [significant?_eq_guard, Option.guard_eq_some_iff] at counted
  obtain ⟨rfl, _⟩ := counted
  refine ⟨cause, ?_, ?_⟩
  · rw [readFile_of_encode present, split, linesRead, Nat.add_comm]
  · intro anyOrder progress reached
    have refused := readLine_of_refusal linesRead
    have portInUse := usesPort_of_readLines started linesRead
    exact readLine_error_congr portInUse (usesPort_of_isReached reached) refused

/-- What the file `r` of `malformedFile` says: its fourth line is malformed, and so is its fifth. -/
def malformedText : List Char :=
  "# port\n\nnameserver ::1\n  port 70000 \nnameserver ::x\n".toList

def malformedFile : FileTree where
  entries := [(["r"], .file (encode malformedText) .full)]

theorem bytes?_malformedFile :
    malformedFile.bytes? ⟨"", ["r"]⟩ = .ok (some (encode malformedText)) :=
  FileTree.bytes?_of_walk (by decide) (by decide) (by decide) rfl rfl rfl

/-- **The first malformed line is named, and which lines are malformed is a matter of their words.**
A file in UTF-8 is refused exactly if one of its lines is malformed. The refusal names the file, the
number of the first malformed line among all lines, and this line trimmed. Every state that the
reading of a file comes to uses a port, so it refuses exactly the malformed lines, whatever the
domain, the order, what is filed and the lines before, and the named line for the same cause. -/
theorem readFile_names_first_malformed {tree : FileTree} {path : Path} {text : List Char}
    (present : tree.bytes? path = .ok (some (encode text))) (book : Book) (order : Order) :
    ((∃ error, (book.readFile tree order path).2 = some error) ↔
        ∃ rawLine ∈ lines text, IsMalformedRow rawLine) ∧
      (∀ front rawLine behind, lines text = front ++ rawLine :: behind →
        (∀ earlier ∈ front, ¬IsMalformedRow earlier) → IsMalformedRow rawLine →
        ∃ error cause, (book.readFile tree order path).2 = some error ∧
          error = .badLine path.text (front.length + 1) (String.ofList (trim rawLine)) cause ∧
          error.kind = "ResolverConfigParseError" ∧
          ∀ anyOrder progress, IsReached anyOrder progress →
            progress.readLine anyOrder (trim rawLine) = .error cause) ∧
      ∀ anyOrder progress, IsReached anyOrder progress → UsesPort progress ∧
        ∀ rawLine line, significant? rawLine = some line →
          ((∃ error, progress.readLine anyOrder line = .error error) ↔ IsMalformed line) := by
  refine ⟨⟨?_, ?_⟩, ?_, ?_⟩
  · rintro ⟨error, refused⟩
    apply Classical.byContradiction
    intro noneMalformed
    have accepted := readFile_of_wellFormed present book order
      fun rawLine member malformed => noneMalformed ⟨rawLine, member, malformed⟩
    rw [accepted] at refused
    contradiction
  · rintro ⟨rawLine, member, malformed⟩
    have notReadable : ¬∀ row ∈ lines text, IsReadable row :=
      fun readable => isMalformedRow_iff.1 malformed (readable rawLine member)
    obtain ⟨front, first, behind, split, readable, firstMalformed⟩ :=
      exists_first_malformed notReadable
    have wellFormed : ∀ earlier ∈ front, ¬IsMalformedRow earlier :=
      fun earlier inFront bad => isMalformedRow_iff.1 bad (readable earlier inFront)
    obtain ⟨cause, refused, _⟩ := readFile_of_first_malformed present book order split wellFormed
      (isMalformedRow_iff.2 firstMalformed)
    exact ⟨_, refused⟩
  · intro front rawLine behind split wellFormed malformed
    obtain ⟨cause, refused, sameCause⟩ :=
      readFile_of_first_malformed present book order split wellFormed malformed
    exact ⟨_, cause, refused, rfl, rfl, sameCause⟩
  · intro anyOrder progress reached
    have portInUse := usesPort_of_isReached reached
    exact ⟨portInUse, fun rawLine line counted => readLine_refused_iff portInUse counted⟩

/-- A file with a comment, a blank line and a server before its first malformed line. -/
theorem readFile_names_first_malformed_met :
    ∃ error cause, (Book.empty.readFile malformedFile .failover ⟨"", ["r"]⟩).2 = some error ∧
      error = .badLine "r" 4 "port 70000" cause := by
  obtain ⟨_, names, _⟩ :=
    readFile_names_first_malformed bytes?_malformedFile Book.empty .failover
  have split : lines malformedText =
      ["# port".toList, [], "nameserver ::1".toList] ++ "  port 70000 ".toList ::
        ["nameserver ::x".toList] := by
    decide +kernel
  have wellFormed : ∀ earlier ∈ ["# port".toList, [], "nameserver ::1".toList],
      ¬IsMalformedRow earlier := by
    have serverAccepted : IsAccepted (trim "nameserver ::1".toList) :=
      ⟨fun _ => ⟨"::1".toList, ⟨.v6 ⟨#v[0, 0, 0, 0, 0, 0, 0, 1], none⟩, none⟩, by decide, rfl⟩,
        fun labelled => absurd labelled (by decide),
        fun labelled => absurd labelled (by decide)⟩
    simp only [List.forall_mem_cons]
    refine ⟨?_, ?_, ?_, by simp⟩
    · rintro ⟨counted, _⟩
      exact absurd counted (by decide)
    · rintro ⟨counted, _⟩
      exact absurd counted (by decide)
    · rintro ⟨_, malformed⟩
      exact isMalformed_iff.1 malformed serverAccepted
  have portWords : words (trim "  port 70000 ".toList) = ["port".toList, "70000".toList] := by
    decide
  have malformed : IsMalformedRow "  port 70000 ".toList :=
    ⟨by decide, .noPort portWords rfl rfl⟩
  obtain ⟨error, cause, refused, named, _⟩ := names _ _ _ split wellFormed malformed
  exact ⟨error, cause, refused, named⟩

end HostResolver.Config
