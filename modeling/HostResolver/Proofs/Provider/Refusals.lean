import HostResolver.Proofs.Config.RefusedLines
import HostResolver.Proofs.Files.Listing
import HostResolver.Proofs.Provider.Building

/-!
Why no provider is built.

Owns: the refusals of configuration files, that files which are read in turn are refused for one of
them or by the system, at which path the system does so, and from these the same of a provider; and
that what is looked at again behind the parse, which is the order, the words of a line and the lines
of the primary file, cannot be refused there.

Does not own: which line of a file is refused.
-/

namespace HostResolver.Provider

open HostResolver.Config HostResolver.Document HostResolver.Files HostResolver.Servers
  HostResolver.Text

/-- The refusals of configuration files. -/
def IsRefusal (error : ConfigError) : Prop :=
  error = .noFiles ∨ (∃ given, error = .unknownOrder given) ∨
    (∃ path number line cause, error = .badLine path number line cause ∧ IsCause cause) ∨
    ∃ path linesRead fault, error = .undecodable path linesRead fault

/-- The refusals for what stands in a file. -/
def IsFileRefusal (error : ConfigError) : Prop :=
  (∃ path number line cause, error = .badLine path number line cause ∧ IsCause cause) ∨
    ∃ path linesRead fault, error = .undecodable path linesRead fault

theorem IsFileRefusal.isRefusal {error : ConfigError} (refusal : IsFileRefusal error) :
    IsRefusal error := Or.inr (Or.inr refusal)

/-- The error of a path that the system refuses. -/
def refusedPath (refusal : PathError) : ConfigError := .unreadable (.inaccessible refusal)

theorem IsRefusal.kind {error : ConfigError} (refusal : IsRefusal error) :
    error.kind = "ResolverConfigError" ∨ error.kind = "ResolverConfigParseError" := by
  rcases refusal with rfl | ⟨given, rfl⟩ | ⟨path, number, line, cause, rfl, _⟩ |
    ⟨path, linesRead, fault, rfl⟩
  · exact Or.inl rfl
  · exact Or.inl rfl
  · exact Or.inr rfl
  · exact Or.inr rfl

/-- A file that gives no lines at all is no refused configuration file. -/
theorem not_isRefusal_unreadable (cause : ReadError) : ¬IsRefusal (.unreadable cause) := by
  rintro (same | ⟨given, same⟩ | ⟨path, number, line, lineCause, same, _⟩ |
    ⟨path, linesRead, fault, same⟩)
  all_goals exact ConfigError.noConfusion same

/-- The system refuses one of some paths. -/
def IsSystemRefusal (tree : FileTree) (among : Path → Prop) (error : ConfigError) : Prop :=
  ∃ path cause, among path ∧ tree.Refuses path cause ∧ error = refusedPath ⟨path.text, cause⟩

/-- A file is refused for what stands in it, or the system refuses its path, which is among some. -/
def IsFileError (tree : FileTree) (among : Path → Prop) (error : ConfigError) : Prop :=
  IsFileRefusal error ∨ IsSystemRefusal tree among error

theorem IsFileError.mono {tree : FileTree} {among others : Path → Prop} {error : ConfigError}
    (fileError : IsFileError tree among error) (wider : ∀ path, among path → others path) :
    IsFileError tree others error := by
  rcases fileError with refusal | ⟨path, cause, member, refuses⟩
  · exact Or.inl refusal
  · exact Or.inr ⟨path, cause, wider path member, refuses⟩

variable {tree : FileTree} {order : Order} {error : ConfigError}

/-! ## Files -/

theorem isFileRefusal_of_readText {book later : Book} {path name : String} {reading : Reading}
    (textRead : book.readText order path name reading = (later, some error)) :
    IsFileRefusal error := by
  unfold Book.readText at textRead
  cases linesRead : Progress.readLines order 1 ⟨.start name, book⟩ reading.lines with
  | mk after refusal =>
      cases refusal with
      | some refusal =>
          have cause := isCause_of_readLines (usesPort_start name book) linesRead
          simp only [linesRead, Prod.mk.injEq, Option.some.injEq] at textRead
          rw [← textRead.2]
          exact Or.inl ⟨_, _, _, _, rfl, cause⟩
      | none =>
          cases faulty : reading.fault with
          | none => simp [linesRead, faulty] at textRead
          | some fault =>
              simp only [linesRead, faulty, Prod.mk.injEq, Option.some.injEq] at textRead
              rw [← textRead.2]
              exact Or.inr ⟨_, _, _, rfl⟩

theorem refused_of_readFile {book later : Book} {path : Path}
    (fileRead : book.readFile tree order path = (later, some error)) :
    IsFileError tree (· = path) error := by
  cases found : tree.bytes? path with
  | error refusal =>
      obtain ⟨cause, refuses, rfl⟩ := FileTree.refuses_of_bytes? found
      obtain ⟨events, _, refused⟩ := Book.exists_readFile_of_error book order found
      rw [refused, Prod.mk.injEq, Option.some.injEq] at fileRead
      exact Or.inr ⟨path, cause, rfl, refuses, fileRead.2.symm⟩
  | ok content =>
      cases content with
      | none => simp [Book.readFile_of_none found] at fileRead
      | some bytes =>
          rw [Book.readFile_of_bytes found] at fileRead
          exact Or.inl (isFileRefusal_of_readText fileRead)

/-- **Files in turn** are refused for what is in one of them, or since the system refuses its path.
-/
theorem refused_of_readFiles {paths : List Path} {book later : Book}
    (filesRead : book.readFiles tree order paths = (later, some error)) :
    IsFileError tree (· ∈ paths) error := by
  induction paths generalizing book with
  | nil => simp [Book.readFiles] at filesRead
  | cons path others inductionHypothesis =>
      cases firstFile tree order book path others with
      | refused fileRead stops =>
          rw [stops, Prod.mk.injEq, Option.some.injEq] at filesRead
          rw [filesRead.2] at fileRead
          apply (refused_of_readFile fileRead).mono
          rintro _ rfl
          exact List.mem_cons_self
      | read _ goesOn =>
          exact (inductionHypothesis (goesOn.symm.trans filesRead)).mono
            fun other => List.mem_cons_of_mem path

theorem refused_of_parseFiles {given : Value} {paths : List Path}
    (parsed : (parseFiles tree given paths).1 = .error error) :
    (Order.ofValue? given = none ∧ error = .ofOrder given) ∨
      IsFileError tree (· ∈ paths) error := by
  unfold parseFiles at parsed
  cases named : Order.ofValue? given with
  | none =>
      simp only [named, Except.error.injEq] at parsed
      exact Or.inl ⟨rfl, parsed.symm⟩
  | some order =>
      cases filesRead : Book.empty.readFiles tree order paths with
      | mk later refusal =>
          cases refusal with
          | none => simp [named, filesRead] at parsed
          | some cause =>
              simp only [named, filesRead, Except.error.injEq] at parsed
              rw [parsed] at filesRead
              exact Or.inr (refused_of_readFiles filesRead)

/-! ### Paths that the system refuses -/

theorem ofOrder_of_hasText {given : Value} (hasText : given.hasText = true) :
    ConfigError.ofOrder given = .unknownOrder given := if_pos hasText

theorem ofOrder_ne_refusedPath (given : Value) (refusal : PathError) :
    ConfigError.ofOrder given ≠ refusedPath refusal := by
  unfold ConfigError.ofOrder
  split
  all_goals exact ConfigError.noConfusion

/-- Files in turn are read up to one that the system refuses. -/
def StopsAt (tree : FileTree) (given : Value) (paths : List Path) (refusal : PathError) : Prop :=
  ∃ front path back map, paths = front ++ path :: back ∧
    (parseFiles tree given front).1 = .ok map ∧ tree.bytes? path = .error refusal

theorem readFiles_of_stop {book later : Book} {front : List Path} {path : Path}
    {refusal : PathError} (before : book.readFiles tree order front = (later, none))
    (refused : tree.bytes? path = .error refusal) (back : List Path) :
    ∃ last, book.readFiles tree order (front ++ path :: back) =
      (last, some (refusedPath refusal)) := by
  obtain ⟨events, _, stops⟩ := Book.exists_readFile_of_error later order refused
  refine ⟨⟨later.map, later.events ++ events⟩, ?_⟩
  rw [readFiles_append, before]
  simp only [Book.readFiles, stops, refusedPath]

/-- What stands in a file is never reported as a refusal of its path. -/
theorem bytes?_of_readFile {book later : Book} {path : Path} {refusal : PathError}
    (fileRead : book.readFile tree order path = (later, some (refusedPath refusal))) :
    tree.bytes? path = .error refusal := by
  cases found : tree.bytes? path with
  | error cause =>
      obtain ⟨events, _, stops⟩ := Book.exists_readFile_of_error book order found
      have same := congrArg Prod.snd (stops.symm.trans fileRead)
      injection same with same
      injection same with same
      injection same with same
      rw [same]
  | ok content =>
      cases content with
      | none => simp [Book.readFile_of_none found] at fileRead
      | some bytes =>
          rw [Book.readFile_of_bytes found] at fileRead
          rcases isFileRefusal_of_readText fileRead with
            ⟨_, _, _, _, same, _⟩ | ⟨_, _, _, same⟩
          · exact ConfigError.noConfusion same
          · exact ConfigError.noConfusion same

theorem stop_of_readFiles {paths : List Path} {book later : Book} {refusal : PathError}
    (filesRead : book.readFiles tree order paths = (later, some (refusedPath refusal))) :
    ∃ front path back last, paths = front ++ path :: back ∧
      book.readFiles tree order front = (last, none) ∧ tree.bytes? path = .error refusal := by
  induction paths generalizing book with
  | nil => simp [Book.readFiles] at filesRead
  | cons path others inductionHypothesis =>
      cases firstFile tree order book path others with
      | refused fileRead stops =>
          rw [stops, Prod.mk.injEq, Option.some.injEq] at filesRead
          rw [filesRead.2] at fileRead
          exact ⟨[], path, others, book, rfl, rfl, bytes?_of_readFile fileRead⟩
      | read fileRead goesOn =>
          obtain ⟨front, stopped, back, last, rfl, before, refused⟩ :=
            inductionHypothesis (goesOn.symm.trans filesRead)
          refine ⟨path :: front, stopped, back, last, rfl, ?_, refused⟩
          rw [Book.readFiles, fileRead]
          exact before

/-- **Files in turn are refused by the system** exactly if one of them is behind files that are
read. -/
theorem parseFiles_refusedPath_iff {given : Value} {paths : List Path} {refusal : PathError} :
    (parseFiles tree given paths).1 = .error (refusedPath refusal) ↔
      StopsAt tree given paths refusal := by
  constructor
  · intro parsed
    unfold parseFiles at parsed
    cases named : Order.ofValue? given with
    | none =>
        simp only [named, Except.error.injEq] at parsed
        exact absurd parsed (ofOrder_ne_refusedPath given refusal)
    | some order =>
        cases filesRead : Book.empty.readFiles tree order paths with
        | mk later refused =>
            cases refused with
            | none => simp [named, filesRead] at parsed
            | some cause =>
                simp only [named, filesRead, Except.error.injEq] at parsed
                rw [parsed] at filesRead
                obtain ⟨front, path, back, last, rfl, before, found⟩ := stop_of_readFiles filesRead
                refine ⟨front, path, back, last.map, rfl, ?_, found⟩
                simp only [parseFiles, named, before]
  · rintro ⟨front, path, back, map, rfl, parsed, found⟩
    obtain ⟨order, later, named, before, _⟩ := parseFiles_eq_ok parsed
    obtain ⟨last, stops⟩ := readFiles_of_stop before found back
    simp only [parseFiles, named, stops]

/-! ## Providers -/

theorem refused_of_read {inputs : Inputs} (read : (Sources.read tree inputs).1 = .error error) :
    (Order.ofValue? inputs.order = none ∧ error = .ofOrder inputs.order) ∨
      IsFileError tree (· ∈ inputs.paths) error := by
  cases Sources.readOutcome tree inputs with
  | filesRefused filesParsed stops =>
      rw [← Except.error.inj (stops.symm.trans read)]
      exact (refused_of_parseFiles filesParsed).imp_right fun fileError =>
        fileError.mono fun path => List.mem_append_left _
  | primaryRefused _ primaryParsed stops =>
      rw [← Except.error.inj (stops.symm.trans read)]
      exact (refused_of_parseFiles primaryParsed).imp_right fun fileError =>
        fileError.mono fun path => List.mem_append_right _
  | parsed _ _ combined => exact nomatch combined.symm.trans read

/-- **A provider is refused** because there is no file, because the order is none, or because of a
file. -/
theorem causes_of_build {inputs : Inputs}
    (built : (ServerProvider.build tree inputs).1 = .error error) :
    (error = .noFiles ∧ inputs.primary = none ∧ inputs.overrideFiles = []) ∨
      (Order.ofValue? inputs.order = none ∧ error = .ofOrder inputs.order) ∨
      IsFileError tree (· ∈ inputs.paths) error := by
  by_cases given : inputs.primary ≠ none ∨ inputs.overrideFiles ≠ []
  · have sources := sources_of_build tree given
    rw [built] at sources
    exact Or.inr (refused_of_read sources.symm)
  · rw [not_or, not_not, not_not] at given
    simp only [ServerProvider.build, given.1, given.2, Option.isNone_none, List.isEmpty_nil,
      Bool.and_self, if_true, Except.error.injEq] at built
    exact Or.inl ⟨built.symm, given⟩

theorem refused_of_build {inputs : Inputs} (hasText : inputs.order.hasText = true)
    (built : (ServerProvider.build tree inputs).1 = .error error) :
    IsRefusal error ∨ IsSystemRefusal tree (· ∈ inputs.paths) error := by
  rcases causes_of_build built with ⟨noFiles, _⟩ | ⟨_, unknown⟩ | refusal | systemRefusal
  · exact Or.inl (Or.inl noFiles)
  · exact Or.inl (Or.inr (Or.inl ⟨_, unknown.trans (ofOrder_of_hasText hasText)⟩))
  · exact Or.inl refusal.isRefusal
  · exact Or.inr systemRefusal

/-- The paths that a provider of a primary file and a directory looks at. -/
def IsLookedAt (primary directory : Option Path) (path : Path) : Prop :=
  primary = some path ∨
    ∃ place, directory = some place ∧ (path = place ∨ ∃ name, path = place.child name)

theorem isLookedAt_of_mem {primary directory : Option Path} {files : List Path} {path : Path}
    (listed : ServerProvider.overrideFiles tree directory = .ok files)
    (member : path ∈ files ++ primary.toList) : IsLookedAt primary directory path := by
  rcases List.mem_append.1 member with inFiles | isPrimary
  · cases directory with
    | none =>
        rw [← Except.ok.inj listed] at inFiles
        exact absurd inFiles List.not_mem_nil
    | some place =>
        exact Or.inr ⟨place, rfl, Or.inr (FileTree.eq_child_of_listFiles listed inFiles)⟩
  · exact Or.inl (Option.mem_toList.1 isPrimary)

theorem causes_of_ofPaths {primary directory : Option Path} {given : Value}
    {environment : Option String}
    (built : (ServerProvider.ofPaths tree primary directory given environment).1 = .error error) :
    (error = .noFiles ∧ primary = none ∧ ServerProvider.overrideFiles tree directory = .ok []) ∨
      (Order.ofValue? given = none ∧ error = .ofOrder given) ∨
      IsFileError tree (IsLookedAt primary directory) error := by
  unfold ServerProvider.ofPaths at built
  cases listed : ServerProvider.overrideFiles tree directory with
  | ok files =>
      simp only [listed] at built
      rcases causes_of_build built with ⟨noFiles, noPrimary, noOverrides⟩ | unknown | fileError
      · have isNil : files = [] := noOverrides
        exact Or.inl ⟨noFiles, noPrimary, congrArg Except.ok isNil⟩
      · exact Or.inr (Or.inl unknown)
      · exact Or.inr (Or.inr (fileError.mono fun path => isLookedAt_of_mem listed))
  | error refusal =>
      simp only [listed, Except.error.injEq] at built
      cases directory with
      | none => exact nomatch listed
      | some place =>
          obtain ⟨path, cause, standing, refuses, rfl⟩ := FileTree.refuses_of_listFiles listed
          exact Or.inr (Or.inr (Or.inr
            ⟨path, cause, Or.inr ⟨place, rfl, standing⟩, refuses, built.symm⟩))

theorem refused_of_ofPaths {primary directory : Option Path} {given : Value}
    {environment : Option String} (hasText : given.hasText = true)
    (built : (ServerProvider.ofPaths tree primary directory given environment).1 = .error error) :
    IsRefusal error ∨ IsSystemRefusal tree (IsLookedAt primary directory) error := by
  rcases causes_of_ofPaths built with ⟨noFiles, _⟩ | ⟨_, unknown⟩ | refusal | systemRefusal
  · exact Or.inl (Or.inl noFiles)
  · exact Or.inl (Or.inr (Or.inl ⟨given, unknown.trans (ofOrder_of_hasText hasText)⟩))
  · exact Or.inl refusal.isRefusal
  · exact Or.inr systemRefusal

/-! ## What is looked at again -/

/-- The name of an order names it. -/
theorem ofValue?_name (order : Order) : Order.ofValue? (.text order.name) = some order := by
  cases order <;> decide

theorem readLine_ne_blank {rawLine line : List Char} (counted : significant? rawLine = some line)
    (progress : Progress) : progress.readLine order line ≠ .error .blank := by
  obtain ⟨word, rest, worded⟩ := exists_firstWord?_of_significant? counted
  intro blank
  unfold Progress.readLine at blank
  cases asked : Directive.ofLine line with
  | error cause =>
      obtain ⟨⟨label, rfl⟩, _⟩ := refused_of_ofLine worded asked
      simp [asked] at blank
  | ok directive =>
      simp only [asked] at blank
      cases directive with
      | nameserver value =>
          unfold Progress.apply at blank
          cases serverRead : Address.Nameserver.readEndpoint value progress.draft.port <;>
            simp [serverRead] at blank
      | domain name => simp [Progress.apply] at blank
      | port digits =>
          unfold Progress.apply at blank
          cases portRead : Address.Port.read digits <;> simp [portRead] at blank
      | sortlist => simp [Progress.apply] at blank
      | other => simp [Progress.apply] at blank

theorem linesAt_of_readFiles {paths : List Path} {book later : Book}
    (filesRead : book.readFiles tree order paths = (later, none)) :
    ∀ path ∈ paths, ∃ lines, linesAt tree path = .ok lines := by
  induction paths generalizing book with
  | nil => simp
  | cons path others inductionHypothesis =>
      cases firstFile tree order book path others with
      | refused _ stops => simp [stops] at filesRead
      | read fileRead goesOn =>
          exact List.forall_mem_cons.2
            ⟨linesAt_of_readFile fileRead, inductionHypothesis (goesOn.symm.trans filesRead)⟩

theorem rereads_of_parseFiles {given : Value} {paths : List Path} {map : DomainMap}
    (parsed : (parseFiles tree given paths).1 = .ok map) {path : Path} (member : path ∈ paths)
    (environment : Option String) :
    (∃ options, Options.ofFile tree path environment = .ok options) ∧
      ∃ domains, SearchList.ofFile tree path = .ok domains := by
  obtain ⟨order, later, _, filesRead, _⟩ := parseFiles_eq_ok parsed
  obtain ⟨lines, found⟩ := linesAt_of_readFiles filesRead path member
  refine ⟨⟨Options.ofLines lines environment, ?_⟩, SearchList.ofLines lines, ?_⟩
  · rw [Options.ofFile, found]
    rfl
  · rw [SearchList.ofFile, found]
    rfl

/-- **The system refuses a path** that a provider is built of exactly if it does so behind files
that are read. -/
theorem build_refusedPath_iff (tree : FileTree) (inputs : Inputs) (refusal : PathError) :
    (ServerProvider.build tree inputs).1 = .error (refusedPath refusal) ↔
      StopsAt tree inputs.order inputs.paths refusal := by
  by_cases given : inputs.primary ≠ none ∨ inputs.overrideFiles ≠ []
  · exact (build_eq_error_iff tree given _).trans parseFiles_refusedPath_iff
  · rw [not_or, not_not, not_not] at given
    have nothing : inputs.paths = [] := by simp [Inputs.paths, given.1, given.2]
    have noFiles : (ServerProvider.build tree inputs).1 = .error .noFiles := by
      simp only [ServerProvider.build, given.1, given.2, Option.isNone_none, List.isEmpty_nil,
        Bool.and_self, if_true]
    rw [noFiles, nothing]
    refine iff_of_false (fun same => ConfigError.noConfusion (Except.error.inj same)) ?_
    rintro ⟨front, path, back, _, none, _⟩
    exact absurd none.symm (List.append_ne_nil_of_right_ne_nil _ (List.cons_ne_nil _ _))

theorem ofPaths_refusedPath_iff (tree : FileTree) (primary directory : Option Path)
    (given : Value) (environment : Option String) (refusal : PathError) :
    (ServerProvider.ofPaths tree primary directory given environment).1 =
        .error (refusedPath refusal) ↔
      ServerProvider.overrideFiles tree directory = .error refusal ∨
        ∃ files, ServerProvider.overrideFiles tree directory = .ok files ∧
          StopsAt tree given (files ++ primary.toList) refusal := by
  unfold ServerProvider.ofPaths
  cases listed : ServerProvider.overrideFiles tree directory with
  | error cause =>
      simp [refusedPath]
  | ok files =>
      have built := build_refusedPath_iff tree ⟨primary, files, given, environment⟩ refusal
      simpa [Inputs.paths] using built

/-! ## All together -/

/-- **No provider is built only for a refusal of a configuration file, or since the system refuses a
path that is looked at.** The order is any text, or any value that has one. The system does so
exactly behind files that are read. Nothing is refused behind the parse: the name of an order that
was read is read again, a line that counts has a label and behind it nothing or an argument, and the
files that were parsed give their options and search lists. -/
theorem build_refused_only (tree : FileTree) :
    (∀ inputs error, inputs.order.hasText = true →
        (ServerProvider.build tree inputs).1 = .error error →
        (IsRefusal error ∧
            (error.kind = "ResolverConfigError" ∨ error.kind = "ResolverConfigParseError")) ∨
          IsSystemRefusal tree (· ∈ inputs.paths) error) ∧
      (∀ primary directory given environment error, given.hasText = true →
        (ServerProvider.ofPaths tree primary directory given environment).1 = .error error →
        (IsRefusal error ∧
            (error.kind = "ResolverConfigError" ∨ error.kind = "ResolverConfigParseError")) ∨
          IsSystemRefusal tree (IsLookedAt primary directory) error) ∧
      (∀ inputs refusal, (ServerProvider.build tree inputs).1 = .error (refusedPath refusal) ↔
        StopsAt tree inputs.order inputs.paths refusal) ∧
      (∀ primary directory given environment refusal,
        (ServerProvider.ofPaths tree primary directory given environment).1 =
            .error (refusedPath refusal) ↔
          ServerProvider.overrideFiles tree directory = .error refusal ∨
            ∃ files, ServerProvider.overrideFiles tree directory = .ok files ∧
              StopsAt tree given (files ++ primary.toList) refusal) ∧
      (∀ given order, Order.ofValue? given = some order →
        Order.ofValue? (.text order.name) = some order) ∧
      (∀ rawLine line, significant? rawLine = some line →
        (∃ label rest, firstWord? line = some (label, rest) ∧
          (rest = [] ∨ ∃ argument behind, firstWord? rest = some (argument, behind))) ∧
        ∀ (progress : Progress) (order : Order), progress.readLine order line ≠ .error .blank) ∧
      ∀ given paths map, (parseFiles tree given paths).1 = .ok map →
        ∀ path ∈ paths, ∀ environment,
          (∃ options, Options.ofFile tree path environment = .ok options) ∧
            ∃ domains, SearchList.ofFile tree path = .ok domains := by
  refine ⟨?_, ?_, build_refusedPath_iff tree, ofPaths_refusedPath_iff tree, ?_, ?_, ?_⟩
  · intro inputs error hasText built
    exact (refused_of_build hasText built).imp_left fun refusal => ⟨refusal, refusal.kind⟩
  · intro primary directory given environment error hasText built
    exact (refused_of_ofPaths hasText built).imp_left fun refusal => ⟨refusal, refusal.kind⟩
  · intro given order _
    exact ofValue?_name order
  · intro rawLine line counted
    obtain ⟨label, rest, worded⟩ := exists_firstWord?_of_significant? counted
    exact ⟨⟨label, rest, worded, rest_of_firstWord? worded⟩,
      fun progress order => readLine_ne_blank counted progress⟩
  · intro given paths map parsed path member environment
    exact rereads_of_parseFiles parsed member environment

/-! ### A path beyond the limits -/

/-- A name of 256 bytes, one more than a directory takes. -/
def longName : String := String.ofList (List.replicate 256 'a')

def longInputs : Inputs where
  primary := some ⟨"", [longName]⟩
  overrideFiles := []
  order := .text "failover"
  environmentOptions := none

theorem toList_longName : longName.toList = List.replicate 256 'a' := String.toList_ofList

theorem not_mem_longName {character : Char} (other : character ≠ 'a') :
    character ∉ longName.toList := by
  intro member
  rw [toList_longName] at member
  exact other (List.eq_of_mem_replicate member)

/-- No directory that may be searched tells what such a name leads to. -/
theorem bytes?_longName {access : Access}
    (works : tree.entry? tree.workplace = some (.directory access))
    (searched : access.searches = true) :
    tree.bytes? ⟨"", [longName]⟩ = .error ⟨longName, .nameTooLong⟩ := by
  have names : Path.rawNames longName = [longName] := by
    rw [Path.rawNames, fields_of_not_mem (not_mem_longName (by decide)), List.map_singleton,
      String.ofList_toList]
  have start : FileTree.startOf longName tree.workplace = tree.workplace := by
    rw [FileTree.startOf, toList_longName]
    rfl
  have refused : tree.enter tree.workplace longName = .error .nameTooLong := by
    have nonempty : longName.isEmpty = false := by decide +kernel
    have isLong : isLongName longName = true := by decide +kernel
    have notPoint : longName ≠ "." := by decide +kernel
    have notPoints : longName ≠ ".." := by decide +kernel
    rw [FileTree.enter_of_directory works]
    simp only [nonempty, searched, notPoint, notPoints, isLong, Bool.false_eq_true, Bool.not_true,
      if_false, if_true]
  have located : tree.locate longName = .error .nameTooLong := by
    rw [FileTree.locate_of_short (not_mem_longName (by decide)) (by decide +kernel)
      (by decide +kernel), names, start]
    exact FileTree.walk_of_enter_error refused _ _
  have text : (⟨"", [longName]⟩ : Path).text = longName := by
    rw [text_of_ne_nil (List.cons_ne_nil _ _), String.intercalate_singleton]
  have looked : tree.look longName = .error ⟨longName, .nameTooLong⟩ :=
    FileTree.look_of_error (FileTree.status_of_locate_error located) rfl
  rw [← text] at looked
  rw [FileTree.bytes?_of_look_error looked, text]

theorem stopsAt_longInputs {access : Access}
    (works : tree.entry? tree.workplace = some (.directory access))
    (searched : access.searches = true) :
    StopsAt tree longInputs.order longInputs.paths ⟨longName, .nameTooLong⟩ :=
  ⟨[], ⟨"", [longName]⟩, [], .empty, rfl, parseFiles_nil ofValue?_failover,
    bytes?_longName works searched⟩

theorem build_longInputs {access : Access}
    (works : tree.entry? tree.workplace = some (.directory access))
    (searched : access.searches = true) :
    (ServerProvider.build tree longInputs).1 = .error (refusedPath ⟨longName, .nameTooLong⟩) :=
  (build_refusedPath_iff tree longInputs _).2 (stopsAt_longInputs works searched)

/-- **A path beyond the limits stops the building of a provider with what the system says of it**,
which is no refusal of a configuration file. -/
theorem build_longInputs_not_isRefusal :
    ∃ error, (ServerProvider.build .empty longInputs).1 = .error error ∧ ¬IsRefusal error ∧
      error.kind = "OSError" :=
  ⟨_, build_longInputs rfl rfl, not_isRefusal_unreadable _, rfl⟩

/-- The premises are met: the system refuses a path, nothing is given at all, an order is named, a
line counts, and a file is parsed. -/
theorem build_refused_only_met :
    IsSystemRefusal crossedFiles (· ∈ longInputs.paths)
        (refusedPath ⟨longName, .nameTooLong⟩) ∧
      StopsAt crossedFiles longInputs.order longInputs.paths ⟨longName, .nameTooLong⟩ ∧
      IsRefusal .noFiles ∧
      Order.ofValue? (.text Order.failover.name) = some .failover ∧
      (∃ label rest, firstWord? "port 5".toList = some (label, rest) ∧
        (rest = [] ∨ ∃ argument behind, firstWord? rest = some (argument, behind))) ∧
      ∃ options, Options.ofFile crossedFiles ⟨"", ["a.b"]⟩ none = .ok options := by
  obtain ⟨building, fromPaths, stops, _, orders, lines, again⟩ := build_refused_only crossedFiles
  have built : (ServerProvider.build crossedFiles longInputs).1 =
      .error (refusedPath ⟨longName, .nameTooLong⟩) := build_longInputs rfl rfl
  refine ⟨?_, (stops longInputs _).1 built, ?_,
    orders (.text "failover") .failover ofValue?_failover, ?_, ?_⟩
  · exact (building longInputs _ rfl built).resolve_left
      fun refusal => not_isRefusal_unreadable _ refusal.1
  · have nothing : (ServerProvider.ofPaths crossedFiles none none (.text "failover") none).1 =
        .error .noFiles := rfl
    rcases fromPaths none none (.text "failover") none _ rfl nothing with
      refusal | ⟨path, _, _, _, same⟩
    · exact refusal.1
    · exact ConfigError.noConfusion same
  · exact (lines "port 5\n".toList "port 5".toList (by decide +kernel)).1
  · obtain ⟨map, parsed, _⟩ := parseFiles_crossedFiles_first
    exact (again _ _ map parsed _ List.mem_cons_self none).1

end HostResolver.Provider
