import HostResolver.Proofs.Config.Discards
import HostResolver.Proofs.Config.Sections
import HostResolver.Proofs.Files.Looking

/-!
Reading of configuration files against their sections.

Owns: what one accepted line does to the section that is being read, and from it, by induction over
lines and over files, that whatever is parsed without a refusal files exactly the sections that have
servers, in order, the first one of each domain, and reports the others.

The section that is not yet ended carries the induction: what is filed in the end are the sections
of the remaining lines, with the servers read so far put in front of the first of them.
-/

namespace HostResolver.Config

open HostResolver.Address HostResolver.Document HostResolver.Files HostResolver.Servers
  HostResolver.Text

variable {order : Order}

/-! ## Directives -/

/-- The first word of a line. -/
def label? (line : List Char) : Option String := (words line).head?.map String.ofList

theorem argument?_eq_none {label : String} {line : List Char}
    (different : label? line ≠ some label) : argument? label line = none := by
  rw [argument?]
  split
  · next first second rest split =>
      rw [if_neg]
      rintro rfl
      exact different (by rw [label?, split]; rfl)
  · rfl

theorem label?_of_words {line first : List Char} {rest : List (List Char)}
    (split : words line = first :: rest) : label? line = some (String.ofList first) := by
  rw [label?, split]
  rfl

theorem argument?_of_words {label : String} {line first second : List Char}
    {rest : List (List Char)} (split : words line = first :: second :: rest)
    (same : String.ofList first = label) : argument? label line = some second := by
  rw [argument?, split]
  exact if_pos same

theorem withArgument?_cases {label : String} {make : List Char → Directive}
    (taking : Directive.withArgument? label = some make) :
    (label = "nameserver" ∧ make = .nameserver) ∨ (label = "domain" ∧ make = .domain) ∨
      (label = "port" ∧ make = .port) := by
  rw [Directive.withArgument?] at taking
  split at taking
  · next same => exact Or.inl ⟨same, (Option.some.inj taking).symm⟩
  · split at taking
    · next same => exact Or.inr (Or.inl ⟨same, (Option.some.inj taking).symm⟩)
    · split at taking
      · next same => exact Or.inr (Or.inr ⟨same, (Option.some.inj taking).symm⟩)
      · contradiction

theorem ne_of_withArgument?_eq_none {label : String}
    (without : Directive.withArgument? label = none) :
    label ≠ "nameserver" ∧ label ≠ "domain" ∧ label ≠ "port" := by
  refine ⟨?_, ?_, ?_⟩
  all_goals
    rintro rfl
    simp [Directive.withArgument?] at without

/-- What a line asks for, in terms of its words. -/
theorem ofLine_cases {line : List Char} {directive : Directive}
    (asked : Directive.ofLine line = .ok directive) :
    (∃ value, directive = .nameserver value ∧ label? line = some "nameserver" ∧
        argument? "nameserver" line = some value) ∨
      (∃ name, directive = .domain name ∧ label? line = some "domain" ∧
        argument? "domain" line = some name) ∨
      (∃ digits, directive = .port digits ∧ label? line = some "port" ∧
        argument? "port" line = some digits) ∨
      ((directive = .sortlist ∨ directive = .other) ∧ label? line ≠ some "nameserver" ∧
        label? line ≠ some "domain" ∧ label? line ≠ some "port") := by
  rw [Directive.ofLine] at asked
  cases found : firstWord? line with
  | none => simp [found] at asked
  | some pair =>
      obtain ⟨first, rest⟩ := pair
      have split := words_eq_of_firstWord? found
      have labelled := label?_of_words split
      simp only [found] at asked
      cases taking : Directive.withArgument? (String.ofList first) with
      | some make =>
          simp only [taking] at asked
          cases next : firstWord? rest with
          | none => simp [next] at asked
          | some pair =>
              obtain ⟨second, others⟩ := pair
              rw [words_eq_of_firstWord? next] at split
              simp only [next, Except.ok.injEq] at asked
              rcases withArgument?_cases taking with ⟨same, rfl⟩ | ⟨same, rfl⟩ | ⟨same, rfl⟩
              · exact Or.inl ⟨second, asked.symm, same ▸ labelled, argument?_of_words split same⟩
              · exact Or.inr (Or.inl
                  ⟨second, asked.symm, same ▸ labelled, argument?_of_words split same⟩)
              · exact Or.inr (Or.inr (Or.inl
                  ⟨second, asked.symm, same ▸ labelled, argument?_of_words split same⟩))
      | none =>
          simp only [taking, Except.ok.injEq] at asked
          obtain ⟨noServer, noDomain, noPort⟩ := ne_of_withArgument?_eq_none taking
          refine Or.inr (Or.inr (Or.inr ⟨?_, ?_, ?_, ?_⟩))
          · rw [← asked]
            split <;> simp
          all_goals
            rw [labelled, ne_eq, Option.some.injEq]
            assumption

/-! ## Accepted lines -/

/-- A line whose label asks for an argument has one that can be read. -/
structure IsAccepted (line : List Char) : Prop where
  nameserver : label? line = some "nameserver" →
    ∃ value written, argument? "nameserver" line = some value ∧
      Nameserver.read value = .ok written
  domain : label? line = some "domain" → ∃ name, argument? "domain" line = some name
  port : label? line = some "port" →
    ∃ digits port, argument? "port" line = some digits ∧ Port.read digits = .ok port

/-- A line of one word that asks for an argument is not accepted. -/
theorem not_isAccepted_of_bare {line first : List Char} (split : words line = [first])
    (asks : String.ofList first ∈ ["nameserver", "domain", "port"]) : ¬IsAccepted line := by
  intro accepted
  have labelled := label?_of_words split
  have without (label : String) : argument? label line = none := by
    rw [argument?, split]
  simp only [List.mem_cons, List.not_mem_nil, or_false] at asks
  rcases asks with same | same | same
  · obtain ⟨value, _, argument, _⟩ := accepted.nameserver (same ▸ labelled)
    simp [without] at argument
  · obtain ⟨name, argument⟩ := accepted.domain (same ▸ labelled)
    simp [without] at argument
  · obtain ⟨digits, _, argument, _⟩ := accepted.port (same ▸ labelled)
    simp [without] at argument

/-! ## Commits -/

/-- What a section files when it ends. -/
def Draft.closed (draft : Draft) (order : Order) : List (String × Source) :=
  if draft.servers.isEmpty then [] else [(draft.domain, .ofServers order draft.servers)]

theorem book_commit (progress : Progress) (order : Order) :
    (progress.commit order).book = progress.book.fileAll (progress.draft.closed order) := by
  rw [Progress.commit, Draft.closed]
  split <;> rfl

theorem map_commit (progress : Progress) (order : Order) :
    (progress.commit order).book.map =
      progress.book.map.insertAll (progress.draft.closed order) := by
  rw [book_commit, Book.map_fileAll]

theorem draft_commit (progress : Progress) (order : Order) :
    (progress.commit order).draft = ⟨progress.draft.domain, progress.draft.port, []⟩ := by
  rw [Progress.commit]
  split
  · next empty =>
      obtain ⟨⟨domain, port, servers⟩, book⟩ := progress
      obtain rfl := List.isEmpty_iff.1 empty
      rfl
  · rfl

/-! ## One line -/

/-- What an accepted line does to the section that is being read, if `inUse` is the port in use. -/
structure LineEffect (order : Order) (line : List Char) (inUse : Port)
    (before after : Progress) : Prop where
  accepted : IsAccepted line
  port : after.draft.port = .int ((portOf? line).getD inUse).val
  ended : ∀ domain, domainOf? line = some domain →
    after.draft.domain = domain ∧ after.draft.servers = [] ∧
      after.book.map = before.book.map.insertAll (before.draft.closed order)
  continued : domainOf? line = none →
    after.draft.domain = before.draft.domain ∧
      after.draft.servers = before.draft.servers ++ (serverOf? inUse line).toList ∧
      after.book.map = before.book.map

theorem domainOf?_eq_none {line : List Char} (different : label? line ≠ some "domain") :
    domainOf? line = none := by
  rw [domainOf?, argument?_eq_none different]
  rfl

theorem portOf?_eq_none {line : List Char} (different : label? line ≠ some "port") :
    portOf? line = none := by
  rw [portOf?, argument?_eq_none different]
  rfl

theorem serverOf?_eq_none {line : List Char} (different : label? line ≠ some "nameserver")
    (inUse : Port) : serverOf? inUse line = none := by
  rw [serverOf?, argument?_eq_none different]
  rfl

/-- A `nameserver` line adds a server to the section. -/
theorem lineEffect_nameserver {line value : List Char} {inUse : Port} {before after : Progress}
    (labelled : label? line = some "nameserver")
    (argument : argument? "nameserver" line = some value)
    (portInUse : before.draft.port = .int inUse.val)
    (applied : before.apply order line (.nameserver value) = .ok after) :
    LineEffect order line inUse before after := by
  rw [Progress.apply, portInUse] at applied
  cases valueRead : Nameserver.read value with
  | error error => simp [Nameserver.readEndpoint_of_refused valueRead] at applied
  | ok written =>
      simp only [Nameserver.readEndpoint_of_read valueRead, Except.ok.injEq] at applied
      subst applied
      refine ⟨⟨fun _ => ⟨value, written, argument, valueRead⟩, by simp [labelled],
        by simp [labelled]⟩, ?_, ?_, ?_⟩
      · rw [portOf?_eq_none (by simp [labelled])]
        exact portInUse
      · intro domain named
        rw [domainOf?_eq_none (by simp [labelled])] at named
        contradiction
      · intro _
        simp [serverOf?, argument, valueRead, Except.toOption]

/-- A `domain` line ends the section. -/
theorem lineEffect_domain {line name : List Char} {inUse : Port} {before after : Progress}
    (labelled : label? line = some "domain") (argument : argument? "domain" line = some name)
    (portInUse : before.draft.port = .int inUse.val)
    (applied : before.apply order line (.domain name) = .ok after) :
    LineEffect order line inUse before after := by
  have named : domainOf? line = some (String.ofList name) := by
    rw [domainOf?, argument]
    rfl
  rw [Progress.apply, Except.ok.injEq] at applied
  subst applied
  refine ⟨⟨by simp [labelled], fun _ => ⟨name, argument⟩, by simp [labelled]⟩, ?_, ?_, ?_⟩
  · rw [portOf?_eq_none (by simp [labelled]), Progress.enter, draft_commit]
    exact portInUse
  · intro domain same
    rw [named, Option.some.injEq] at same
    exact ⟨same, by rw [Progress.enter, draft_commit], map_commit before order⟩
  · intro unnamed
    rw [named] at unnamed
    contradiction

/-- A `port` line changes the port in use and nothing else. -/
theorem lineEffect_port {line digits : List Char} {inUse : Port} {before after : Progress}
    (labelled : label? line = some "port") (argument : argument? "port" line = some digits)
    (applied : before.apply order line (.port digits) = .ok after) :
    LineEffect order line inUse before after := by
  rw [Progress.apply] at applied
  cases portRead : Port.read digits with
  | error error => simp [portRead] at applied
  | ok port =>
      simp only [portRead, Except.ok.injEq] at applied
      subst applied
      refine ⟨⟨by simp [labelled], by simp [labelled],
        fun _ => ⟨digits, port, argument, portRead⟩⟩, ?_, ?_, ?_⟩
      · simp [portOf?, argument, portRead, Except.toOption]
      · intro domain named
        rw [domainOf?_eq_none (by simp [labelled])] at named
        contradiction
      · intro _
        simp [serverOf?_eq_none (show label? line ≠ some "nameserver" by simp [labelled])]

/-- A line without any of the three labels changes nothing but the events. -/
theorem lineEffect_other {line : List Char} {inUse : Port} {before after : Progress}
    (noServer : label? line ≠ some "nameserver") (noDomain : label? line ≠ some "domain")
    (noPort : label? line ≠ some "port") (portInUse : before.draft.port = .int inUse.val)
    (sameDraft : after.draft = before.draft) (sameMap : after.book.map = before.book.map) :
    LineEffect order line inUse before after := by
  refine ⟨⟨fun same => absurd same noServer, fun same => absurd same noDomain,
    fun same => absurd same noPort⟩, ?_, ?_, ?_⟩
  · rw [portOf?_eq_none noPort, sameDraft]
    exact portInUse
  · intro domain named
    rw [domainOf?_eq_none noDomain] at named
    contradiction
  · intro _
    rw [sameDraft, sameMap, serverOf?_eq_none noServer]
    simp

/-- **One step.** What a line that is read does to the section that is being read. -/
theorem lineEffect_of_readLine {line : List Char} {inUse : Port} {before after : Progress}
    (portInUse : before.draft.port = .int inUse.val)
    (lineRead : before.readLine order line = .ok after) :
    LineEffect order line inUse before after := by
  rw [Progress.readLine] at lineRead
  cases asked : Directive.ofLine line with
  | error error => simp [asked] at lineRead
  | ok directive =>
      simp only [asked] at lineRead
      rcases ofLine_cases asked with ⟨value, rfl, labelled, argument⟩ |
        ⟨name, rfl, labelled, argument⟩ | ⟨digits, rfl, labelled, argument⟩ |
        ⟨rfl | rfl, noServer, noDomain, noPort⟩
      · exact lineEffect_nameserver labelled argument portInUse lineRead
      · exact lineEffect_domain labelled argument portInUse lineRead
      · exact lineEffect_port labelled argument lineRead
      all_goals
        rw [Progress.apply, Except.ok.injEq] at lineRead
        subst lineRead
        exact lineEffect_other noServer noDomain noPort portInUse rfl rfl

/-- What a line files: the section that a `domain` line ends, and else nothing. -/
def Draft.endedBy (draft : Draft) (order : Order) (line : List Char) : List (String × Source) :=
  if (domainOf? line).isSome then draft.closed order else []

theorem endedBy_eq_nil {line : List Char} (different : label? line ≠ some "domain")
    (draft : Draft) : draft.endedBy order line = [] := by
  rw [Draft.endedBy, domainOf?_eq_none different]
  rfl

/-- A line that is read reports the discard of the section that it ends, and no other discard. -/
theorem filing_of_readLine {line : List Char} {before after : Progress}
    (lineRead : before.readLine order line = .ok after) :
    after.book.SameFiling (before.book.fileAll (before.draft.endedBy order line)) := by
  rw [Progress.readLine] at lineRead
  cases asked : Directive.ofLine line with
  | error error => simp [asked] at lineRead
  | ok directive =>
      simp only [asked] at lineRead
      rcases ofLine_cases asked with ⟨value, rfl, labelled, _⟩ | ⟨name, rfl, _, argument⟩ |
        ⟨digits, rfl, labelled, _⟩ | ⟨rfl | rfl, _, noDomain, _⟩
      · rw [endedBy_eq_nil (by simp [labelled])]
        rw [Progress.apply] at lineRead
        cases serverRead : Nameserver.readEndpoint value before.draft.port with
        | error error => simp [serverRead] at lineRead
        | ok server =>
            simp only [serverRead, Except.ok.injEq] at lineRead
            subst lineRead
            exact .refl _
      · rw [Progress.apply, Except.ok.injEq] at lineRead
        subst lineRead
        rw [Draft.endedBy, domainOf?, argument, Option.map_some, Option.isSome_some, if_pos rfl,
          Progress.enter, book_commit]
        exact .refl _
      · rw [endedBy_eq_nil (by simp [labelled])]
        rw [Progress.apply] at lineRead
        cases portRead : Port.read digits with
        | error error => simp [portRead] at lineRead
        | ok port =>
            simp only [portRead, Except.ok.injEq] at lineRead
            subst lineRead
            exact .refl _
      · rw [Progress.apply, Except.ok.injEq] at lineRead
        subst lineRead
        rw [endedBy_eq_nil noDomain]
        exact Book.sameFiling_note _ rfl
      · rw [Progress.apply, Except.ok.injEq] at lineRead
        subst lineRead
        rw [endedBy_eq_nil noDomain]
        exact .refl _

/-! ## Lines of a file -/

/-- What is filed by sections of which the first one has servers in front already. -/
theorem entriesOf_precede_cons (draft : Draft) (parts : List Section) :
    entriesOf order ((⟨draft.domain, []⟩ :: parts).modifyHead (Section.precede draft.servers)) =
      draft.closed order ++ entriesOf order parts := by
  rw [List.modifyHead_cons, ← List.singleton_append, entriesOf_append, Draft.closed]
  cases draft.servers <;> simp [entriesOf, Section.precede, Section.entry]

/-- What reading does at the first of some lines: it passes over it, reads it, or stops there. -/
inductive FirstLine (order : Order) (number : Nat) (before : Progress) (rawLine : List Char)
    (rest : List (List Char)) : Prop where
  | passed (counted : significant? rawLine = none)
      (goesOn : Progress.readLines order number before (rawLine :: rest) =
        Progress.readLines order (number + 1) before rest)
  | read {line : List Char} {next : Progress} (counted : significant? rawLine = some line)
      (lineRead : before.readLine order line = .ok next)
      (goesOn : Progress.readLines order number before (rawLine :: rest) =
        Progress.readLines order (number + 1) next rest)
  | refused {line : List Char} {error : LineError} (counted : significant? rawLine = some line)
      (lineRead : before.readLine order line = .error error)
      (stops : Progress.readLines order number before (rawLine :: rest) =
        (before, some ⟨number, line, error⟩))

theorem firstLine (order : Order) (number : Nat) (before : Progress) (rawLine : List Char)
    (rest : List (List Char)) : FirstLine order number before rawLine rest := by
  cases counted : significant? rawLine with
  | none =>
      refine .passed counted ?_
      rw [Progress.readLines, counted]
  | some line =>
      cases lineRead : before.readLine order line with
      | ok next =>
          refine .read counted lineRead ?_
          rw [Progress.readLines, counted]
          simp only [lineRead]
      | error error =>
          refine .refused counted lineRead ?_
          rw [Progress.readLines, counted]
          simp only [lineRead]

/-- **A run.** If lines are read to their end, what is filed are the sections of the lines, the
first of which begins with the servers that were read before. -/
theorem filing_of_readLines {rawLines : List (List Char)} {number : Nat} {before after : Progress}
    {earlier : List (List Char)}
    (portInUse : before.draft.port = .int (portBehind earlier).val)
    (linesRead : Progress.readLines order number before rawLines = (after, none)) :
    (after.commit order).book.SameFiling (before.book.fileAll (entriesOf order
          ((sectionsBehind earlier before.draft.domain (rawLines.filterMap significant?)).modifyHead
            (Section.precede before.draft.servers)))) ∧
      ∀ line ∈ rawLines.filterMap significant?, IsAccepted line := by
  induction rawLines generalizing number before earlier with
  | nil =>
      rw [Progress.readLines, Prod.mk.injEq] at linesRead
      obtain ⟨rfl, _⟩ := linesRead
      rw [List.filterMap_nil, sectionsBehind_nil, entriesOf_precede_cons, book_commit]
      exact ⟨by simp [entriesOf, Book.SameFiling.refl], by simp⟩
  | cons rawLine rest inductionHypothesis =>
      cases firstLine order number before rawLine rest with
      | passed counted goesOn =>
          rw [List.filterMap_cons_none counted]
          exact inductionHypothesis portInUse (goesOn.symm.trans linesRead)
      | refused _ _ stops => simp [stops] at linesRead
      | @read line next counted lineRead goesOn =>
          rw [List.filterMap_cons_some counted]
          have effect := lineEffect_of_readLine portInUse lineRead
          have ended := filing_of_readLine lineRead
          have nextPort := effect.port
          rw [← portBehind_append_singleton] at nextPort
          obtain ⟨filed, accepted⟩ := inductionHypothesis nextPort (goesOn.symm.trans linesRead)
          refine ⟨?_, List.forall_mem_cons.2 ⟨effect.accepted, accepted⟩⟩
          cases named : domainOf? line with
          | some domain =>
              obtain ⟨sameDomain, noServers, _⟩ := effect.ended domain named
              rw [sameDomain, noServers, modifyHead_precede_nil] at filed
              rw [Draft.endedBy, named, Option.isSome_some, if_pos rfl] at ended
              rw [sectionsBehind_domain named, entriesOf_precede_cons, Book.fileAll_append]
              exact filed.trans (ended.fileAll _)
          | none =>
              obtain ⟨sameDomain, moreServers, _⟩ := effect.continued named
              rw [sameDomain, moreServers] at filed
              rw [Draft.endedBy, named] at ended
              rw [sectionsBehind_other named, modifyHead_precede_precede]
              exact filed.trans (ended.fileAll _)

/-! ## Files -/

/-- A decoded text without a fault files the sections of its lines. -/
theorem filing_of_readText {book later : Book} {path name : String} {reading : Reading}
    (textRead : book.readText order path name reading = (later, none)) :
    later.SameFiling (book.fileAll (entriesOf order
        (sectionsOf name (significantLines reading.text)))) ∧
      ∀ line ∈ significantLines reading.text, IsAccepted line := by
  rw [Book.readText] at textRead
  cases linesRead : Progress.readLines order 1 ⟨.start name, book⟩ reading.lines with
  | mk after refusal =>
      cases refusal with
      | some refusal => simp [linesRead] at textRead
      | none =>
          cases faulty : reading.fault with
          | some fault => simp [linesRead, faulty] at textRead
          | none =>
              simp only [linesRead, faulty, Prod.mk.injEq, and_true] at textRead
              subst textRead
              have started : (Draft.start name).port = .int (portBehind []).val := rfl
              obtain ⟨filed, accepted⟩ := filing_of_readLines started linesRead
              rw [Reading.lines, faulty] at filed accepted
              rw [filterMap_significant?] at filed accepted
              rw [Draft.start, modifyHead_precede_nil] at filed
              exact ⟨filed, accepted⟩

/-- A file that is read files its sections; what is no regular file has none. -/
theorem filing_of_readFile {book later : Book} {tree : FileTree} {path : Path}
    (fileRead : book.readFile tree order path = (later, none)) :
    later.SameFiling (book.fileAll (entriesOf order (sectionsAt tree path))) ∧
      ∀ line ∈ significantLines (textAt tree path), IsAccepted line := by
  rw [sectionsAt, textAt]
  cases found : tree.bytes? path with
  | error refusal =>
      obtain ⟨events, _, refused⟩ := Book.exists_readFile_of_error book order found
      simp [refused] at fileRead
  | ok content =>
      cases content with
      | none =>
          rw [Book.readFile_of_none found, Prod.mk.injEq] at fileRead
          rw [← fileRead.1]
          constructor
          · rw [sectionsOf, significantLines_nil, sectionsBehind_nil]
            exact Book.sameFiling_note book rfl
          · simp [significantLines_nil]
      | some bytes =>
          rw [Book.readFile_of_bytes found] at fileRead
          obtain ⟨filed, accepted⟩ := filing_of_readText fileRead
          exact ⟨filed.trans ((Book.sameFiling_note book rfl).fileAll _), accepted⟩

/-- What reading does at the first of some files: it reads it, or stops there. -/
inductive FirstFile (tree : FileTree) (order : Order) (book : Book) (path : Path)
    (rest : List Path) : Prop where
  | read {next : Book} (fileRead : book.readFile tree order path = (next, none))
      (goesOn : book.readFiles tree order (path :: rest) = next.readFiles tree order rest)
  | refused {next : Book} {error : ConfigError}
      (fileRead : book.readFile tree order path = (next, some error))
      (stops : book.readFiles tree order (path :: rest) = (next, some error))

theorem firstFile (tree : FileTree) (order : Order) (book : Book) (path : Path)
    (rest : List Path) : FirstFile tree order book path rest := by
  cases fileRead : book.readFile tree order path with
  | mk next refusal =>
      cases refusal with
      | none => exact .read fileRead (by rw [Book.readFiles, fileRead])
      | some error => exact .refused fileRead (by rw [Book.readFiles, fileRead])

/-- **Files in turn** file the sections of all of them in order. -/
theorem filing_of_readFiles {tree : FileTree} {paths : List Path} {book later : Book}
    (filesRead : book.readFiles tree order paths = (later, none)) :
    later.SameFiling (book.fileAll (entriesOf order (paths.flatMap (sectionsAt tree)))) ∧
      ∀ path ∈ paths, ∀ line ∈ significantLines (textAt tree path), IsAccepted line := by
  induction paths generalizing book with
  | nil =>
      rw [Book.readFiles, Prod.mk.injEq] at filesRead
      obtain ⟨rfl, _⟩ := filesRead
      exact ⟨.refl _, by simp⟩
  | cons path rest inductionHypothesis =>
      cases firstFile tree order book path rest with
      | refused _ stops => simp [stops] at filesRead
      | read fileRead goesOn =>
          obtain ⟨filedHere, acceptedHere⟩ := filing_of_readFile fileRead
          obtain ⟨filedLater, acceptedLater⟩ := inductionHypothesis (goesOn.symm.trans filesRead)
          refine ⟨?_, List.forall_mem_cons.2 ⟨acceptedHere, acceptedLater⟩⟩
          rw [List.flatMap_cons, entriesOf_append, Book.fileAll_append]
          exact filedLater.trans (filedHere.fileAll _)

theorem map_of_readFiles {tree : FileTree} {paths : List Path} {book later : Book}
    (filesRead : book.readFiles tree order paths = (later, none)) :
    later.map = book.map.insertAll (entriesOf order (paths.flatMap (sectionsAt tree))) ∧
      ∀ path ∈ paths, ∀ line ∈ significantLines (textAt tree path), IsAccepted line := by
  obtain ⟨filed, accepted⟩ := filing_of_readFiles filesRead
  exact ⟨filed.map.trans (Book.map_fileAll _ _), accepted⟩

/-! ## Two files -/

/-- The bytes of a text in ASCII. -/
def asciiBytes (text : String) : List UInt8 :=
  text.toList.map fun character => UInt8.ofNat character.toNat

/-- What the file `a.b` of `crossedFiles` holds. -/
def firstBytes : List UInt8 := asciiBytes "nameserver ::1\ndomain c\nnameserver ::3\n"

/-- What the file `c` of `crossedFiles` holds. -/
def secondBytes : List UInt8 :=
  asciiBytes "port 5\nnameserver 10.0.0.1\ndomain a.b\nnameserver ::2\n"

/-- Two files, each of which has a section of its own and one for the name of the other. -/
def crossedFiles : FileTree where
  entries := [(["a.b"], .file firstBytes .full), (["c"], .file secondBytes .full)]

theorem bytes?_crossedFiles_first : crossedFiles.bytes? ⟨"", ["a.b"]⟩ = .ok (some firstBytes) :=
  FileTree.bytes?_of_walk (by decide) (by decide) (by decide) rfl rfl rfl

theorem bytes?_crossedFiles_second : crossedFiles.bytes? ⟨"", ["c"]⟩ = .ok (some secondBytes) :=
  FileTree.bytes?_of_walk (by decide) (by decide) (by decide) rfl rfl rfl

theorem ofValue?_failover : Order.ofValue? (.text "failover") = some .failover := by
  decide

theorem exists_ok_of_toOption {outcome : Except ConfigError DomainMap} {domain : String}
    {source : Source} (found : outcome.toOption.bind (·.get? domain) = some source) :
    ∃ map, outcome = .ok map ∧ map.get? domain = some source := by
  cases outcome with
  | error error => simp [Except.toOption] at found
  | ok map => exact ⟨map, rfl, found⟩

theorem parseFiles_crossedFiles_first :
    ∃ map, (parseFiles crossedFiles (.text "failover") [⟨"", ["a.b"]⟩]).1 = .ok map ∧
      map.get? "c" = some ⟨.single, [⟨.v6 ⟨#v[0, 0, 0, 0, 0, 0, 0, 3], none⟩, dnsPort⟩]⟩ := by
  apply exists_ok_of_toOption
  rw [parseFiles, ofValue?_failover]
  simp only [Book.readFiles, Book.readFile_of_bytes bytes?_crossedFiles_first]
  decide +kernel

theorem parseFiles_crossedFiles_second :
    ∃ map, (parseFiles crossedFiles (.text "failover") [⟨"", ["c"]⟩]).1 = .ok map ∧
      map.get? "c" = some ⟨.single, [⟨.v4 ⟨10, 0, 0, 1⟩, 5⟩]⟩ := by
  apply exists_ok_of_toOption
  rw [parseFiles, ofValue?_failover]
  simp only [Book.readFiles, Book.readFile_of_bytes bytes?_crossedFiles_second]
  decide +kernel

theorem parseFiles_crossedFiles :
    ∃ map, (parseFiles crossedFiles (.text "failover")
        [⟨"", ["a.b"]⟩, ⟨"", ["c"]⟩]).1 = .ok map ∧
      map.get? "c" = some ⟨.single, [⟨.v6 ⟨#v[0, 0, 0, 0, 0, 0, 0, 3], none⟩, dnsPort⟩]⟩ := by
  apply exists_ok_of_toOption
  rw [parseFiles, ofValue?_failover]
  simp only [Book.readFiles, Book.readFile_of_bytes bytes?_crossedFiles_first,
    Book.readFile_of_bytes bytes?_crossedFiles_second]
  decide +kernel

/-! ## Parses -/

/-- What a parse without a refusal has read. -/
theorem parseFiles_eq_ok {tree : FileTree} {given : Value} {paths : List Path} {map : DomainMap}
    (parsed : (parseFiles tree given paths).1 = .ok map) :
    ∃ order later, Order.ofValue? given = some order ∧
      Book.empty.readFiles tree order paths = (later, none) ∧ later.map = map := by
  rw [parseFiles] at parsed
  cases named : Order.ofValue? given with
  | none => simp [named] at parsed
  | some order =>
      cases filesRead : Book.empty.readFiles tree order paths with
      | mk later refusal =>
          cases refusal with
          | some error => simp [named, filesRead] at parsed
          | none =>
              simp only [named, filesRead, Except.ok.injEq] at parsed
              exact ⟨order, later, rfl, filesRead, parsed⟩

/-- **A parsed map holds the first section of each domain.** If files are parsed, their map has one
entry for each domain that has a section with servers, in the order of the first such sections, and
each entry holds the servers of that first section and no others. No line with a server is left out,
since each line whose label asks for an argument has one that can be read. -/
theorem parseFiles_sections {tree : FileTree} {given : Value} {paths : List Path}
    {map : DomainMap} (parsed : (parseFiles tree given paths).1 = .ok map) :
    ∃ order, Order.ofValue? given = some order ∧
      map.entries = firstOfEach (entriesOf order (paths.flatMap (sectionsAt tree))) ∧
      ∀ path ∈ paths, ∀ line ∈ significantLines (textAt tree path), IsAccepted line := by
  obtain ⟨order, later, named, filesRead, rfl⟩ := parseFiles_eq_ok parsed
  obtain ⟨filed, accepted⟩ := map_of_readFiles filesRead
  refine ⟨order, named, ?_, accepted⟩
  rw [filed]
  exact DomainMap.entries_empty_insertAll _

/-- Both sections of the file `c` are dropped, since `a.b` is read first and has both domains. -/
theorem parseFiles_sections_met :
    ∃ map, (parseFiles crossedFiles (.text "failover")
        [⟨"", ["a.b"]⟩, ⟨"", ["c"]⟩]).1 = .ok map ∧
      map.entries =
        [("a.b", ⟨.single, [⟨.v6 ⟨#v[0, 0, 0, 0, 0, 0, 0, 1], none⟩, dnsPort⟩]⟩),
          ("c", ⟨.single, [⟨.v6 ⟨#v[0, 0, 0, 0, 0, 0, 0, 3], none⟩, dnsPort⟩]⟩)] := by
  obtain ⟨map, parsed, _⟩ := parseFiles_crossedFiles
  obtain ⟨order, named, entries, _⟩ := parseFiles_sections parsed
  rw [ofValue?_failover, Option.some.injEq] at named
  subst named
  refine ⟨map, parsed, ?_⟩
  rw [entries]
  simp only [List.flatMap_cons, List.flatMap_nil, sectionsAt, textAt, bytes?_crossedFiles_first,
    bytes?_crossedFiles_second]
  decide +kernel

end HostResolver.Config
