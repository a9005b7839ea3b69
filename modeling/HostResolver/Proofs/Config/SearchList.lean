import HostResolver.Proofs.Config.LastOption

/-!
The search list of a file against the domain in which its reading ends.

Owns: that the list is that of all words behind `search`, that a `domain` line says the same to the
reader of servers, which passes over comments and keeps the domain of its section, and to the reader
of the search list, which keeps nothing, and from these that the two readers of an accepted file
agree on the domain behind its last line.

Does not own: which files are accepted.
-/

namespace HostResolver.Config

open HostResolver.Document HostResolver.Files HostResolver.Servers HostResolver.Text
  HostResolver.Text.Utf8

variable {order : Order}

/-! ## The section behind the last line -/

/-- A row that does not count has no domain, and trimming takes none away. -/
theorem bind_significant?_domainOf? (row : List Char) :
    (significant? row).bind domainOf? = domainOf? row := by
  have sameDomain : domainOf? (trim row) = domainOf? row := by
    rw [domainOf?, domainOf?, argument?, argument?, words_trim]
  rw [significant?_eq_guard]
  by_cases counted : counts (trim row) = true
  · rw [Option.guard, if_pos counted, Option.bind_some, sameDomain]
  · rw [Option.guard, if_neg counted, Option.bind_none]
    refine (domainOf?_eq_none fun labelled => ?_).symm
    exact counted (Options.counts_of_label? labelled (by decide) (by decide))

theorem domain_of_readLine {line : List Char} {before after : Progress}
    (portInUse : UsesPort before) (lineRead : before.readLine order line = .ok after) :
    after.draft.domain = (domainOf? line).getD before.draft.domain := by
  obtain ⟨inUse, isPort⟩ := portInUse
  have effect := lineEffect_of_readLine isPort lineRead
  cases named : domainOf? line with
  | some domain => exact (effect.ended domain named).1
  | none => exact (effect.continued named).1

/-- The last domain of a list with one more in front. -/
theorem getLast?_filterMap_cons {first : List Char} {others : List (List Char)} (domain : String) :
    (((first :: others).filterMap domainOf?).getLast?).getD domain =
      ((others.filterMap domainOf?).getLast?).getD ((domainOf? first).getD domain) := by
  rw [List.filterMap_cons]
  cases domainOf? first with
  | none => rfl
  | some name =>
      dsimp only
      rw [List.getLast?_cons]
      rfl

/-- **A run.** Lines that are read to their end leave the section in the domain of the last `domain`
line. -/
theorem domain_of_readLines {rows : List (List Char)} {number : Nat} {before after : Progress}
    (portInUse : UsesPort before)
    (linesRead : Progress.readLines order number before rows = (after, none)) :
    after.draft.domain = ((rows.filterMap domainOf?).getLast?).getD before.draft.domain := by
  induction rows generalizing number before with
  | nil =>
      rw [Progress.readLines, Prod.mk.injEq] at linesRead
      rw [← linesRead.1]
      rfl
  | cons row rest inductionHypothesis =>
      rw [getLast?_filterMap_cons, ← bind_significant?_domainOf?]
      cases firstLine order number before row rest with
      | passed counted goesOn =>
          rw [counted]
          exact inductionHypothesis portInUse (goesOn.symm.trans linesRead)
      | read counted lineRead goesOn =>
          rw [counted, Option.bind_some, ← domain_of_readLine portInUse lineRead]
          exact inductionHypothesis (usesPort_of_readLine portInUse lineRead)
            (goesOn.symm.trans linesRead)
      | refused _ _ stops => simp [stops] at linesRead

theorem accepted_of_readLines {rows : List (List Char)} {name : String} {book : Book}
    {after : Progress}
    (linesRead : Progress.readLines order 1 ⟨.start name, book⟩ rows = (after, none)) :
    ∀ line ∈ rows.filterMap significant?, IsAccepted line := by
  have started : (Draft.start name).port = .int (portBehind []).val := rfl
  exact (filing_of_readLines started linesRead).2

/-- How the reading of an accepted file ends: the rows of the file, all of which are read, and where
the reading stands behind the last of them. What is then filed is the section that ends there. -/
structure EndsIn (book : Book) (tree : FileTree) (order : Order) (path : Path)
    (rows : List (List Char)) (after : Progress) : Prop where
  lines : linesAt tree path = .ok rows
  read : Progress.readLines order 1 ⟨.start path.baseName, book.note (.parsing path.text)⟩ rows =
    (after, none)
  filed : ∀ bytes, tree.bytes? path = .ok (some bytes) →
    book.readFile tree order path = ((after.commit order).book, none)

/-- A file that is accepted has no fault in its encoding, and all its rows are read. -/
theorem exists_endsIn {tree : FileTree} {path : Path} {book : Book}
    (accepted : (book.readFile tree order path).2 = none) :
    ∃ rows after, EndsIn book tree order path rows after := by
  have outcome : book.readFile tree order path = ((book.readFile tree order path).1, none) := by
    rw [← accepted]
  cases found : tree.bytes? path with
  | error refusal =>
      obtain ⟨_, _, refused⟩ := Book.exists_readFile_of_error book order found
      simp [refused] at outcome
  | ok content =>
      cases content with
      | none =>
          have noRows : linesAt tree path = .ok [] := by rw [linesAt, found]
          exact ⟨[], _, noRows, rfl, by simp [found]⟩
      | some bytes =>
          simp only [Book.readFile_of_bytes found, Book.readText] at outcome
          cases linesRead : Progress.readLines order 1
              ⟨.start path.baseName, book.note (.parsing path.text)⟩
              (Reading.ofBytes bytes).lines with
          | mk after refusal =>
              cases refusal with
              | some refusal => simp [linesRead] at outcome
              | none =>
                  cases faulty : (Reading.ofBytes bytes).fault with
                  | some fault => simp [linesRead, faulty] at outcome
                  | none =>
                      refine ⟨(Reading.ofBytes bytes).lines, after, ?_, linesRead, ?_⟩
                      · simp only [linesAt, found, faulty]
                      · intro _ _
                        simp only [Book.readFile_of_bytes found, Book.readText, linesRead, faulty]

namespace SearchList

/-! ## The search list -/

/-- The words behind the first one of all lines with a label, in order. -/
def wordsBehind (label : String) (rows : List (List Char)) : List String :=
  (rows.filter fun row => label? row = some label).flatMap fun row =>
    (words row).tail.map String.ofList

theorem searched_eq (rows : List (List Char)) : searched rows = wordsBehind "search" rows := by
  induction rows with
  | nil => rfl
  | cons row others inductionHypothesis =>
      rw [searched, List.flatMap_cons, ← searched, inductionHypothesis]
      rcases Options.labelled?_cases "search" row with ⟨text, found, labelled, behind⟩ |
        ⟨absent, other⟩
      · have wordsHere : wordsBehind "search" (row :: others) =
            (words text).map String.ofList ++ wordsBehind "search" others := by
          rw [wordsBehind, List.filter_cons_of_pos (by simpa using labelled), List.flatMap_cons,
            behind]
          rfl
        rw [wordsHere, found]
      · have wordsHere : wordsBehind "search" (row :: others) = wordsBehind "search" others := by
          rw [wordsBehind, List.filter_cons_of_neg (by simpa using other)]
          rfl
        rw [wordsHere, absent]
        rfl

/-- Both readers take the same domain from a line. -/
theorem domainOf?_eq (row : List Char) : domainOf? row = Config.domainOf? row := by
  rw [domainOf?, Config.domainOf?, argument?]
  rcases Options.labelled?_cases "domain" row with ⟨text, found, labelled, behind⟩ |
    ⟨absent, other⟩
  · rw [found]
    rw [label?] at labelled
    cases split : words row with
    | nil => simp [split] at labelled
    | cons first rest =>
        rw [split, List.head?_cons, Option.map_some, Option.some.injEq] at labelled
        rw [split, List.tail_cons] at behind
        subst behind
        cases next : firstWord? text with
        | none => simp [words_eq_nil_of_firstWord? next, next]
        | some pair =>
            rw [words_eq_of_firstWord? next]
            simp [labelled, next]
  · have none : argument? "domain" row = none := argument?_eq_none other
    rw [argument?] at none
    rw [absent, none]
    rfl

theorem ofLines_eq (rows : List (List Char)) :
    ofLines rows = if wordsBehind "search" rows = []
      then ((rows.filterMap Config.domainOf?).getLast?).toList else wordsBehind "search" rows := by
  have sameDomains : domainOf? = Config.domainOf? := funext domainOf?_eq
  rw [ofLines, searched_eq, sameDomains]
  cases wordsBehind "search" rows with
  | nil => rfl
  | cons first others => rfl

/-- The last domain that rows name is that of the section behind the last row. -/
theorem toList_getLast?_of_endsIn {book : Book} {tree : FileTree} {path : Path}
    {rows : List (List Char)} {after : Progress} (ends : EndsIn book tree order path rows after)
    (named : rows.filterMap Config.domainOf? ≠ []) :
    ((rows.filterMap Config.domainOf?).getLast?).toList = [after.draft.domain] := by
  rw [domain_of_readLines (usesPort_start _ _) ends.read, List.getLast?_eq_getLast_of_ne_nil named]
  rfl

/-- Every `domain` line of an accepted file has a domain. -/
theorem filterMap_domainOf?_eq_nil_iff {book : Book} {tree : FileTree} {path : Path}
    {rows : List (List Char)} {after : Progress} (ends : EndsIn book tree order path rows after) :
    rows.filterMap Config.domainOf? = [] ↔ ∀ row ∈ rows, label? row ≠ some "domain" := by
  rw [List.filterMap_eq_nil_iff]
  refine forall₂_congr fun row member => ⟨fun unnamed labelled => ?_, domainOf?_eq_none⟩
  have counted : significant? row = some (trim row) := by
    rw [significant?_eq_guard, Option.guard_eq_some_iff]
    exact ⟨rfl, Options.counts_of_label? labelled (by decide) (by decide)⟩
  have accepted : IsAccepted (trim row) :=
    accepted_of_readLines ends.read _ (List.mem_filterMap.2 ⟨row, member, counted⟩)
  have labelledText : label? (trim row) = some "domain" := by
    rw [label?, words_trim]
    exact labelled
  obtain ⟨name, argument⟩ := accepted.domain labelledText
  rw [← bind_significant?_domainOf?, counted, Option.bind_some, Config.domainOf?, argument]
    at unnamed
  contradiction

/-- **The search list and the reading of the servers agree on a file.** Of a file that is accepted,
whatever is filed before it and in whichever order, all rows are read. If there are words behind
`search`, they are the search list, in the order of the rows, wherever `domain` lines stand. If
there are none, but there is a `domain` line, the search list is the domain of the section in which
the reading of the file ends, and nothing else. If there is neither, the search list is empty. -/
theorem ofFile_agrees_with_reading {book : Book} {tree : FileTree} {path : Path}
    (accepted : (book.readFile tree order path).2 = none) :
    ∃ rows after domains, EndsIn book tree order path rows after ∧
      ofFile tree path = .ok domains ∧
      (wordsBehind "search" rows ≠ [] → domains = wordsBehind "search" rows) ∧
      (wordsBehind "search" rows = [] → (∃ row ∈ rows, label? row = some "domain") →
        domains = [after.draft.domain]) ∧
      (wordsBehind "search" rows = [] → (∀ row ∈ rows, label? row ≠ some "domain") →
        domains = []) := by
  obtain ⟨rows, after, ends⟩ := exists_endsIn accepted
  refine ⟨rows, after, ofLines rows, ends, ?_, ?_, ?_, ?_⟩
  · rw [ofFile, ends.lines]
    rfl
  · intro searched
    rw [ofLines_eq, if_neg searched]
  · rintro unsearched ⟨row, member, labelled⟩
    rw [ofLines_eq, if_pos unsearched]
    refine toList_getLast?_of_endsIn ends fun unnamed => ?_
    exact (filterMap_domainOf?_eq_nil_iff ends).1 unnamed row member labelled
  · intro unsearched unlabelled
    rw [ofLines_eq, if_pos unsearched, (filterMap_domainOf?_eq_nil_iff ends).2 unlabelled]
    rfl

/-- What the file `r` of `domainsFile` says: a `search` line without a word, two `domain` lines, the
first with more than one word behind it, and comments that have a say in nothing. -/
def domainsText : List Char :=
  "search \ndomain a x\n# search y\nnameserver ::1\n\tdomain b\n;domain c\n".toList

def domainsFile : FileTree where
  entries := [(["r"], .file (encode domainsText) .full)]

theorem bytes?_domainsFile : domainsFile.bytes? ⟨"", ["r"]⟩ = .ok (some (encode domainsText)) :=
  FileTree.bytes?_of_walk (by decide) (by decide) (by decide) rfl rfl rfl

theorem readFile_domainsFile :
    (Book.empty.readFile domainsFile .failover ⟨"", ["r"]⟩).2 = none := by
  rw [Book.readFile_of_bytes bytes?_domainsFile]
  decide +kernel

/-- The search list is the last domain, in which the reading ends. -/
theorem ofFile_agrees_with_reading_met :
    (Book.empty.readFile domainsFile .failover ⟨"", ["r"]⟩).2 = none ∧
      ∃ rows after, EndsIn Book.empty domainsFile .failover ⟨"", ["r"]⟩ rows after ∧
        after.draft.domain = "b" ∧ ofFile domainsFile ⟨"", ["r"]⟩ = .ok ["b"] := by
  obtain ⟨rows, after, domains, ends, listed, _, fromDomain, _⟩ :=
    ofFile_agrees_with_reading readFile_domainsFile
  have sameRows : rows = lines domainsText := by
    have found := ends.lines
    rw [linesAt_of_encode bytes?_domainsFile] at found
    exact (Except.ok.inj found).symm
  subst sameRows
  have lastDomain : after.draft.domain = "b" := by
    rw [domain_of_readLines (usesPort_start _ _) ends.read]
    decide
  refine ⟨readFile_domainsFile, _, after, ends, lastDomain, ?_⟩
  rw [listed, fromDomain (by decide) (by decide), lastDomain]

end SearchList

end HostResolver.Config
