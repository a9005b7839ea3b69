import HostResolver.Proofs.Config.Parsing

/-!
Refused lines of configuration files.

Owns: that a line that counts is never blank, the causes for which it can be refused, and that it is
refused exactly if its label asks for an argument and has none that can be read, whatever was read
before; from these, by induction over the lines, that the first such line is the one reported.

Does not own: what the lines of a file are.

What was read before has a say only through the port in use, and of it only this is needed: that it
is a port. The induction carries that along.
-/

namespace HostResolver.Config

open HostResolver.Address HostResolver.Document HostResolver.Servers HostResolver.Text

variable {order : Order}

/-! ## Lines that count -/

theorem exists_firstWord?_of_significant? {rawLine line : List Char}
    (counted : significant? rawLine = some line) :
    ∃ word rest, firstWord? line = some (word, rest) := by
  rw [significant?_eq_guard, Option.guard_eq_some_iff] at counted
  have nonempty : trim rawLine ≠ [] := by
    intro blank
    have lineCounts := counted.2
    rw [blank] at lineCounts
    contradiction
  have inked := startsWithInk_trim nonempty
  rw [counted.1] at inked
  exact ⟨_, _, firstWord?_of_startsWithInk inked⟩

theorem words_eq_nil_of_firstWord? {text : List Char} (absent : firstWord? text = none) :
    words text = [] := by
  unfold firstWord? at absent
  rw [← words_trimStart]
  cases start : trimStart text with
  | nil => rfl
  | cons character rest => simp [start] at absent

/-! ## Causes -/

/-- The causes for which a line that counts is refused. -/
def IsCause (error : LineError) : Prop :=
  (∃ label, error = .missingArgument label) ∨ (∃ text, error = .nameserver (.notAnAddress text)) ∨
    (∃ cause, error = .nameserver (.port cause)) ∨ ∃ cause, error = .port cause

/-- A label that asks for an argument has none behind it. -/
theorem refused_of_ofLine {line word rest : List Char} {error : LineError}
    (worded : firstWord? line = some (word, rest))
    (refused : Directive.ofLine line = .error error) :
    (∃ label, error = .missingArgument label) ∧ ¬IsAccepted line := by
  have split := words_eq_of_firstWord? worded
  simp only [Directive.ofLine, worded] at refused
  cases taking : Directive.withArgument? (String.ofList word) with
  | none => simp [taking] at refused
  | some make =>
      cases next : firstWord? rest with
      | some pair => simp [taking, next] at refused
      | none =>
          simp only [taking, next, Except.error.injEq] at refused
          rw [words_eq_nil_of_firstWord? next] at split
          refine ⟨⟨_, refused.symm⟩, not_isAccepted_of_bare split ?_⟩
          rcases withArgument?_cases taking with ⟨same, _⟩ | ⟨same, _⟩ | ⟨same, _⟩
          all_goals simp [same]

/-- Whether the port in use is one. -/
def UsesPort (progress : Progress) : Prop := ∃ inUse : Port, progress.draft.port = .int inUse.val

theorem usesPort_start (name : String) (book : Book) : UsesPort ⟨.start name, book⟩ :=
  ⟨dnsPort, rfl⟩

/-- A server that cannot be read is refused for what its text says. -/
theorem refused_of_nameserver {progress : Progress} {line value : List Char} {error : LineError}
    (portInUse : UsesPort progress) (labelled : label? line = some "nameserver")
    (argument : argument? "nameserver" line = some value)
    (refused : progress.apply order line (.nameserver value) = .error error) :
    IsCause error ∧ ¬IsAccepted line := by
  obtain ⟨inUse, isPort⟩ := portInUse
  rw [Progress.apply, isPort] at refused
  cases valueRead : Nameserver.read value with
  | ok written => simp [Nameserver.readEndpoint_of_read valueRead] at refused
  | error cause =>
      simp only [Nameserver.readEndpoint_of_refused valueRead, Except.error.injEq] at refused
      rw [← refused]
      constructor
      · cases cause with
        | notAnAddress text => exact Or.inr (Or.inl ⟨text, rfl⟩)
        | port cause => exact Or.inr (Or.inr (Or.inl ⟨cause, rfl⟩))
        | endpoint cause => exact absurd valueRead (Nameserver.read_ne_endpoint value)
      · intro accepted
        obtain ⟨other, written, otherArgument, otherRead⟩ := accepted.nameserver labelled
        rw [argument, Option.some.injEq] at otherArgument
        rw [← otherArgument, valueRead] at otherRead
        contradiction

theorem refused_of_port {progress : Progress} {line digits : List Char} {error : LineError}
    (labelled : label? line = some "port") (argument : argument? "port" line = some digits)
    (refused : progress.apply order line (.port digits) = .error error) :
    IsCause error ∧ ¬IsAccepted line := by
  rw [Progress.apply] at refused
  cases portRead : Port.read digits with
  | ok port => simp [portRead] at refused
  | error cause =>
      simp only [portRead, Except.error.injEq] at refused
      refine ⟨Or.inr (Or.inr (Or.inr ⟨cause, refused.symm⟩)), ?_⟩
      intro accepted
      obtain ⟨other, port, otherArgument, otherRead⟩ := accepted.port labelled
      rw [argument, Option.some.injEq] at otherArgument
      rw [← otherArgument, portRead] at otherRead
      contradiction

/-- **One step.** A line with a word that is refused is not accepted, and the cause is one of its
own. -/
theorem refused_of_readLine {progress : Progress} {line word rest : List Char} {error : LineError}
    (portInUse : UsesPort progress) (worded : firstWord? line = some (word, rest))
    (refused : progress.readLine order line = .error error) :
    IsCause error ∧ ¬IsAccepted line := by
  rw [Progress.readLine] at refused
  cases asked : Directive.ofLine line with
  | error cause =>
      simp only [asked, Except.error.injEq] at refused
      rw [← refused]
      have unasked := refused_of_ofLine worded asked
      exact ⟨Or.inl unasked.1, unasked.2⟩
  | ok directive =>
      simp only [asked] at refused
      rcases ofLine_cases asked with ⟨value, rfl, labelled, argument⟩ |
        ⟨name, rfl, labelled, argument⟩ | ⟨digits, rfl, labelled, argument⟩ |
        ⟨rfl | rfl, _⟩
      · exact refused_of_nameserver portInUse labelled argument refused
      · simp [Progress.apply] at refused
      · exact refused_of_port labelled argument refused
      · simp [Progress.apply] at refused
      · simp [Progress.apply] at refused

/-! ## Lines of a file -/

/-- Whether a line counts for nothing or is accepted. -/
def IsReadable (rawLine : List Char) : Prop :=
  ∀ line, significant? rawLine = some line → IsAccepted line

theorem usesPort_of_readLine {before after : Progress} {line : List Char}
    (portInUse : UsesPort before) (lineRead : before.readLine order line = .ok after) :
    UsesPort after := by
  obtain ⟨inUse, isPort⟩ := portInUse
  exact ⟨_, (lineEffect_of_readLine isPort lineRead).port⟩

/-- **A run.** Readable lines are read to their end. -/
theorem readLines_append_of_readable {front : List (List Char)} {before : Progress}
    (readable : ∀ rawLine ∈ front, IsReadable rawLine) (portInUse : UsesPort before)
    (number : Nat) :
    ∃ after, UsesPort after ∧ ∀ behind,
      Progress.readLines order number before (front ++ behind) =
        Progress.readLines order (number + front.length) after behind := by
  induction front generalizing before number with
  | nil => exact ⟨before, portInUse, fun behind => rfl⟩
  | cons rawLine others inductionHypothesis =>
      obtain ⟨here, later⟩ := List.forall_mem_cons.1 readable
      -- The state behind the front is the same whatever stands behind it.
      have total : number + (rawLine :: others).length = number + 1 + others.length := by
        rw [List.length_cons]
        omega
      rw [total]
      cases counted : significant? rawLine with
      | none =>
          obtain ⟨after, uses, same⟩ := inductionHypothesis later portInUse (number + 1)
          refine ⟨after, uses, fun behind => ?_⟩
          rw [List.cons_append, Progress.readLines, counted]
          exact same behind
      | some line =>
          obtain ⟨word, rest, worded⟩ := exists_firstWord?_of_significant? counted
          cases lineRead : before.readLine order line with
          | error error =>
              exact absurd (here line counted) (refused_of_readLine portInUse worded lineRead).2
          | ok next =>
              have nextUses := usesPort_of_readLine portInUse lineRead
              obtain ⟨after, uses, same⟩ := inductionHypothesis later nextUses (number + 1)
              refine ⟨after, uses, fun behind => ?_⟩
              rw [List.cons_append, Progress.readLines, counted]
              simp only [lineRead]
              exact same behind

theorem exists_readLines_of_readable {rawLines : List (List Char)} {before : Progress}
    (readable : ∀ rawLine ∈ rawLines, IsReadable rawLine) (portInUse : UsesPort before)
    (number : Nat) :
    ∃ after, Progress.readLines order number before rawLines = (after, none) := by
  obtain ⟨after, _, same⟩ := readLines_append_of_readable readable portInUse number
  have whole := same []
  rw [List.append_nil] at whole
  exact ⟨after, whole⟩

/-- **The first line that is not readable is refused**, under its number. -/
theorem exists_readLines_refused {front : List (List Char)} {rawLine : List Char}
    {before : Progress} (readable : ∀ earlier ∈ front, IsReadable earlier)
    (malformed : ¬IsReadable rawLine) (portInUse : UsesPort before) (number : Nat)
    (behind : List (List Char)) :
    ∃ after line error, significant? rawLine = some line ∧ IsCause error ∧
      Progress.readLines order number before (front ++ rawLine :: behind) =
        (after, some ⟨number + front.length, line, error⟩) := by
  obtain ⟨after, uses, same⟩ := readLines_append_of_readable readable portInUse number
  rw [same, Progress.readLines]
  cases counted : significant? rawLine with
  | none =>
      refine absurd ?_ malformed
      intro line found
      rw [counted] at found
      contradiction
  | some line =>
      obtain ⟨word, rest, worded⟩ := exists_firstWord?_of_significant? counted
      cases lineRead : after.readLine order line with
      | error error =>
          have refused := refused_of_readLine uses worded lineRead
          exact ⟨after, line, error, rfl, refused.1, by simp only [lineRead]⟩
      | ok next =>
          obtain ⟨inUse, isPort⟩ := uses
          have accepted := (lineEffect_of_readLine isPort lineRead).accepted
          refine absurd ?_ malformed
          intro other found
          rw [counted, Option.some.injEq] at found
          exact found ▸ accepted

/-- Whichever line is refused, the cause is one of its own. -/
theorem isCause_of_readLines {rawLines : List (List Char)} {number : Nat}
    {before after : Progress} {refusal : Progress.Refusal} (portInUse : UsesPort before)
    (linesRead : Progress.readLines order number before rawLines = (after, some refusal)) :
    IsCause refusal.error := by
  induction rawLines generalizing number before with
  | nil => simp [Progress.readLines] at linesRead
  | cons rawLine rest inductionHypothesis =>
      cases firstLine order number before rawLine rest with
      | passed _ goesOn => exact inductionHypothesis portInUse (goesOn.symm.trans linesRead)
      | read _ lineRead goesOn =>
          exact inductionHypothesis (usesPort_of_readLine portInUse lineRead)
            (goesOn.symm.trans linesRead)
      | refused counted lineRead stops =>
          obtain ⟨word, behind, worded⟩ := exists_firstWord?_of_significant? counted
          rw [stops, Prod.mk.injEq, Option.some.injEq] at linesRead
          rw [← linesRead.2]
          exact (refused_of_readLine portInUse worded lineRead).1

end HostResolver.Config
