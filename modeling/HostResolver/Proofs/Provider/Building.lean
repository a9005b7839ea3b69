import HostResolver.Provider.Basic
import HostResolver.Proofs.Config.Appending

/-!
The building of providers against one parse of all their files.

Owns: how the maps of the override files and of the primary file make up the sources of a provider,
that a primary file that was parsed gives its options and its search list too, and from these that
a provider is built exactly if one parse of all files succeeds, and how it agrees with the map of
that parse.

Does not own: what the sections of the files are.
-/

namespace HostResolver.Provider

open HostResolver.Address HostResolver.Config HostResolver.Document HostResolver.Files
  HostResolver.Servers HostResolver.Text

/-! ## Sources -/

/-- The name whose section of the primary file gives the default servers. -/
def Inputs.ownName (inputs : Inputs) : Option String := inputs.primary.map Path.baseName

/-- All files of a provider: the override files, then the primary file. -/
def Inputs.paths (inputs : Inputs) : List Path := inputs.overrideFiles ++ inputs.primary.toList

namespace Sources

/-- The default source and the overrides of a provider. -/
def ofProvider (provider : ServerProvider) : Sources := ⟨provider.default, provider.overrides⟩

/-- The sources that the map of the override files and that of the primary file make up. -/
def combine (own : Option String) (files primaries : DomainMap) : Sources where
  default := own.bind primaries.get?
  overrides := files.insertAll (own.elim primaries primaries.erase).entries

theorem combine_none (files : DomainMap) : combine none files .empty = ⟨none, files⟩ := rfl

theorem combine_some (name : String) (files primaries : DomainMap) :
    combine (some name) files primaries =
      ⟨primaries.get? name, files.insertAll (primaries.erase name).entries⟩ := rfl

/-- With a primary file, the override files may be parsed even if there are none. -/
theorem read_of_primary {tree : FileTree} {given : Value} {order : Order}
    (named : Order.ofValue? given = some order) (path : Path) (overrideFiles : List Path)
    (environment : Option String) :
    (read tree ⟨some path, overrideFiles, given, environment⟩).1 =
      (parseFiles tree given overrideFiles).1.bind fun files =>
        (parseFiles tree given [path]).1.map (combine (some path.baseName) files) := by
  cases overrideFiles with
  | nil =>
      simp only [read, List.isEmpty_nil, if_true, parseFiles_nil named]
      cases primaryParsed : (parseFiles tree given [path]).1 with
      | error error => rfl
      | ok primaries =>
          simp only [Except.bind, Except.map, ofPrimary, combine_some,
            DomainMap.empty_insertAll_entries]
  | cons first rest =>
      simp only [read, List.isEmpty_cons, Bool.false_eq_true, if_false]
      cases filesParsed : parseFiles tree given (first :: rest) with
      | mk outcome events =>
          cases outcome with
          | error error => rfl
          | ok files =>
              cases primaryParsed : parseFiles tree given [path] with
              | mk outcome more =>
                  cases outcome with
                  | error error => rfl
                  | ok primaries =>
                      simp only [Except.bind, Except.map, ofPrimary, combine_some,
                        Book.map_fileAll]

/-- The three ways to read sources are one: the override files, then the primary file. -/
theorem read_eq_combine (tree : FileTree) (inputs : Inputs) :
    (read tree inputs).1 =
      (parseFiles tree inputs.order inputs.overrideFiles).1.bind fun files =>
        (parseFiles tree inputs.order inputs.primary.toList).1.map
          (combine inputs.ownName files) := by
  obtain ⟨primary, overrideFiles, given, environment⟩ := inputs
  cases named : Order.ofValue? given with
  | none =>
      -- No file is looked at, whichever way is taken.
      cases primary <;> cases overrideFiles <;>
        simp [read, parseFiles, named, Except.bind, Except.map]
  | some order =>
      cases primary with
      | none =>
          simp only [read, Option.toList_none, parseFiles_nil named]
          cases (parseFiles tree given overrideFiles).1 with
          | error error => rfl
          | ok files =>
              simp only [Except.bind, Except.map, Inputs.ownName, Option.map_none, combine_none]
      | some path => exact read_of_primary named path overrideFiles environment

/-- How sources are read: the override files are refused, or else the primary file is, or else the
maps of both are combined. -/
inductive ReadOutcome (tree : FileTree) (inputs : Inputs) : Prop where
  | filesRefused {error : ConfigError}
      (filesParsed : (parseFiles tree inputs.order inputs.overrideFiles).1 = .error error)
      (stops : (read tree inputs).1 = .error error)
  | primaryRefused {files : DomainMap} {error : ConfigError}
      (filesParsed : (parseFiles tree inputs.order inputs.overrideFiles).1 = .ok files)
      (primaryParsed : (parseFiles tree inputs.order inputs.primary.toList).1 = .error error)
      (stops : (read tree inputs).1 = .error error)
  | parsed {files primaries : DomainMap}
      (filesParsed : (parseFiles tree inputs.order inputs.overrideFiles).1 = .ok files)
      (primaryParsed : (parseFiles tree inputs.order inputs.primary.toList).1 = .ok primaries)
      (combined : (read tree inputs).1 = .ok (combine inputs.ownName files primaries))

theorem readOutcome (tree : FileTree) (inputs : Inputs) : ReadOutcome tree inputs := by
  have read := read_eq_combine tree inputs
  cases filesParsed : (parseFiles tree inputs.order inputs.overrideFiles).1 with
  | error error =>
      rw [filesParsed] at read
      exact .filesRefused filesParsed read
  | ok files =>
      cases primaryParsed : (parseFiles tree inputs.order inputs.primary.toList).1 with
      | error error =>
          rw [filesParsed, primaryParsed] at read
          exact .primaryRefused filesParsed primaryParsed read
      | ok primaries =>
          rw [filesParsed, primaryParsed] at read
          exact .parsed filesParsed primaryParsed read

/-- The maps that sources which were read are made from. -/
theorem maps_of_read {tree : FileTree} {inputs : Inputs} {sources : Sources}
    (sourcesRead : (read tree inputs).1 = .ok sources) :
    ∃ files primaries,
      (parseFiles tree inputs.order inputs.overrideFiles).1 = .ok files ∧
      (parseFiles tree inputs.order inputs.primary.toList).1 = .ok primaries ∧
      sources = combine inputs.ownName files primaries := by
  cases readOutcome tree inputs with
  | filesRefused _ stops => exact nomatch stops.symm.trans sourcesRead
  | primaryRefused _ _ stops => exact nomatch stops.symm.trans sourcesRead
  | parsed filesParsed primaryParsed combined =>
      exact ⟨_, _, filesParsed, primaryParsed, Except.ok.inj (sourcesRead.symm.trans combined)⟩

end Sources

/-! ## The primary file -/

/-- A file that is read gives its lines. -/
theorem linesAt_of_readFile {book later : Book} {tree : FileTree} {order : Order} {path : Path}
    (fileRead : book.readFile tree order path = (later, none)) :
    ∃ lines, linesAt tree path = .ok lines := by
  rw [linesAt]
  cases present : tree.bytes? path with
  | error error =>
      obtain ⟨events, _, refused⟩ := Book.exists_readFile_of_error book order present
      simp [refused] at fileRead
  | ok content =>
      cases content with
      | none => exact ⟨[], rfl⟩
      | some bytes =>
          rw [Book.readFile_of_bytes present] at fileRead
          simp only [Book.readText] at fileRead
          cases faulty : (Reading.ofBytes bytes).fault with
          | none => exact ⟨(Reading.ofBytes bytes).lines, by simp only [faulty]⟩
          | some fault =>
              simp only [faulty] at fileRead
              split at fileRead <;> simp at fileRead

/-- A primary file that is parsed gives its options and its search list. -/
theorem readPrimary_of_parseFiles {tree : FileTree} {inputs : Inputs} {primaries : DomainMap}
    (parsed : (parseFiles tree inputs.order inputs.primary.toList).1 = .ok primaries) :
    ∃ result, ServerProvider.readPrimary tree inputs = .ok result := by
  rw [ServerProvider.readPrimary]
  cases given : inputs.primary with
  | none => exact ⟨_, rfl⟩
  | some path =>
      rw [given, Option.toList_some] at parsed
      obtain ⟨order, later, named, filesRead, _⟩ := parseFiles_eq_ok parsed
      cases firstFile tree order Book.empty path [] with
      | refused _ stops => simp [stops] at filesRead
      | read fileRead _ =>
          obtain ⟨lines, linesFound⟩ := linesAt_of_readFile fileRead
          simp only [Options.ofFile, SearchList.ofFile, linesFound]
          exact ⟨_, rfl⟩

/-- A provider is built exactly if its sources are read. -/
theorem sources_of_build (tree : FileTree) {inputs : Inputs}
    (given : inputs.primary ≠ none ∨ inputs.overrideFiles ≠ []) :
    (ServerProvider.build tree inputs).1.map Sources.ofProvider = (Sources.read tree inputs).1 := by
  have notEmpty : ¬(inputs.primary.isNone && inputs.overrideFiles.isEmpty) = true := by
    rw [Bool.and_eq_true, Option.isNone_iff_eq_none, List.isEmpty_iff, not_and_or]
    exact given
  rw [ServerProvider.build, if_neg notEmpty]
  cases sourcesRead : Sources.read tree inputs with
  | mk outcome events =>
      cases outcome with
      | error error => rfl
      | ok sources =>
          obtain ⟨_, primaries, _, primaryParsed, _⟩ :=
            Sources.maps_of_read (congrArg Prod.fst sourcesRead)
          obtain ⟨result, primaryRead⟩ := readPrimary_of_parseFiles primaryParsed
          simp only [primaryRead]
          rfl

/-! ## One parse of all files -/

/-- How a provider agrees with one parse of all its files, of which the primary file has the name
`own`: `combined` is the map of that parse, `files` that of the override files and `primaries` that
of the primary file. -/
structure Agreement (own : Option String) (combined files primaries : DomainMap)
    (provider : ServerProvider) : Prop where
  default : provider.default = own.bind primaries.get?
  shared : ∀ domain, own ≠ some domain →
    provider.overrides.get? domain = combined.get? domain
  ownName : ∀ domain, own = some domain →
    provider.overrides.get? domain = files.get? domain
  order : provider.overrides.domains =
    combined.domains.filter fun domain => decide (domain ∈ provider.overrides.domains)

theorem get?_elim_erase (own : Option String) (map : DomainMap) (domain : String) :
    (own.elim map map.erase).get? domain = if own = some domain then none else map.get? domain := by
  cases own with
  | none => rfl
  | some name =>
      rw [Option.elim_some, DomainMap.get?_erase]
      by_cases same : domain = name
      · rw [if_pos same, if_pos (congrArg some same.symm)]
      · have different : some name ≠ some domain := fun equal => same (Option.some.inj equal).symm
        rw [if_neg same, if_neg different]

theorem entries_elim_erase (own : Option String) (map : DomainMap) :
    (own.elim map map.erase).entries =
      map.entries.filter fun entry => decide (own ≠ some entry.1) := by
  cases own with
  | none => exact (List.filter_eq_self.2 (by simp)).symm
  | some name =>
      rw [Option.elim_some, DomainMap.erase]
      apply List.filter_congr
      intro entry _
      by_cases same : entry.1 = name
      · simp [same]
      · simp [same, Ne.symm same]

theorem domains_elim_erase (own : Option String) (map : DomainMap) :
    (own.elim map map.erase).domains =
      map.domains.filter fun domain => decide (own ≠ some domain) := by
  rw [DomainMap.domains, entries_elim_erase, DomainMap.domains, List.filter_map]
  rfl

/-- The sources of a provider agree with the map that files the sections of the primary file behind
those of the override files, its own section included. -/
theorem agreement_of_combine {own : Option String} {files primaries : DomainMap}
    {provider : ServerProvider}
    (combined : Sources.ofProvider provider = Sources.combine own files primaries) :
    Agreement own (files.insertAll primaries.entries) files primaries provider := by
  have overrides : provider.overrides =
      files.insertAll (own.elim primaries primaries.erase).entries :=
    congrArg Sources.overrides combined
  have overridden (domain : String) : provider.overrides.get? domain =
      (files.get? domain).or (if own = some domain then none else primaries.get? domain) := by
    rw [overrides, DomainMap.get?_insertAll, ← get?_elim_erase]
    rfl
  refine ⟨congrArg Sources.default combined, ?_, ?_, ?_⟩
  · intro domain different
    rw [overridden, if_neg different, DomainMap.get?_insertAll]
    rfl
  · intro domain same
    rw [overridden, if_pos same, Option.or_none]
  · rw [overrides]
    exact DomainMap.domains_insertAll_of_filter files primaries (domains_elim_erase own primaries)

theorem map_eq_error_iff {ε α β : Type} {outcome : Except ε α} {f : α → β} {error : ε} :
    outcome.map f = .error error ↔ outcome = .error error := by
  cases outcome with
  | error cause => simp [Except.map]
  | ok value => simp [Except.map]

theorem eq_ok_of_map {ε α β : Type} {outcome : Except ε α} {f : α → β} {result : β}
    (mapped : outcome.map f = .ok result) : ∃ value, outcome = .ok value ∧ f value = result := by
  cases outcome with
  | error cause => simp [Except.map] at mapped
  | ok value => exact ⟨value, rfl, Except.ok.inj mapped⟩

theorem exists_eq_ok_iff {ε α : Type} {outcome : Except ε α} :
    (∃ value, outcome = .ok value) ↔ ∀ error, outcome ≠ .error error := by
  cases outcome with
  | error cause => simp
  | ok value => simp

/-- A provider is refused exactly as one parse of all its files is. -/
theorem build_eq_error_iff (tree : FileTree) {inputs : Inputs}
    (given : inputs.primary ≠ none ∨ inputs.overrideFiles ≠ []) (error : ConfigError) :
    (ServerProvider.build tree inputs).1 = .error error ↔
      (parseFiles tree inputs.order inputs.paths).1 = .error error := by
  rw [← map_eq_error_iff, sources_of_build tree given, Sources.read_eq_combine, Inputs.paths,
    parseFiles_append]
  cases (parseFiles tree inputs.order inputs.overrideFiles).1 with
  | error cause => simp only [Except.bind, Except.error.injEq]
  | ok files => simp only [Except.bind, map_eq_error_iff]

/-- The primary file `c` and the override file `a.b`. -/
def crossedInputs : Inputs where
  primary := some ⟨"", ["c"]⟩
  overrideFiles := [⟨"", ["a.b"]⟩]
  order := .text "failover"
  environmentOptions := none

/-- **A provider is built as one parse of all its files says.** The building succeeds exactly if the
parse of the override files and then the primary file does, and is refused with the same error
otherwise. The provider then agrees with the map of that parse on every domain but the name of the
primary file, in the same order; that name has the servers of the override files, and the default
servers are those that the primary file has for it. -/
theorem build_agrees_with_parse (tree : FileTree) (inputs : Inputs)
    (given : inputs.primary ≠ none ∨ inputs.overrideFiles ≠ []) :
    ((∃ provider, (ServerProvider.build tree inputs).1 = .ok provider) ↔
        ∃ combined, (parseFiles tree inputs.order inputs.paths).1 = .ok combined) ∧
      (∀ error, (ServerProvider.build tree inputs).1 = .error error ↔
        (parseFiles tree inputs.order inputs.paths).1 = .error error) ∧
      ∀ provider, (ServerProvider.build tree inputs).1 = .ok provider →
        ∃ combined files primaries,
          (parseFiles tree inputs.order inputs.paths).1 = .ok combined ∧
          (parseFiles tree inputs.order inputs.overrideFiles).1 = .ok files ∧
          (parseFiles tree inputs.order inputs.primary.toList).1 = .ok primaries ∧
          Agreement inputs.ownName combined files primaries provider := by
  have sameErrors := build_eq_error_iff tree given
  refine ⟨?_, sameErrors, ?_⟩
  · rw [exists_eq_ok_iff, exists_eq_ok_iff]
    exact forall_congr' fun error => not_congr (sameErrors error)
  · intro provider accepted
    have built := sources_of_build tree given
    rw [accepted] at built
    obtain ⟨files, primaries, filesParsed, primaryParsed, combined⟩ :=
      Sources.maps_of_read built.symm
    refine ⟨_, files, primaries, ?_, filesParsed, primaryParsed, agreement_of_combine combined⟩
    rw [Inputs.paths, parseFiles_append, filesParsed, primaryParsed]
    rfl

theorem build_agrees_with_parse_met :
    ∃ provider, (ServerProvider.build crossedFiles crossedInputs).1 = .ok provider ∧
      provider.default = some ⟨.single, [⟨.v4 ⟨10, 0, 0, 1⟩, 5⟩]⟩ ∧
      provider.overrides.get? "c" =
        some ⟨.single, [⟨.v6 ⟨#v[0, 0, 0, 0, 0, 0, 0, 3], none⟩, dnsPort⟩]⟩ := by
  obtain ⟨files, filesParsed, inFiles⟩ := parseFiles_crossedFiles_first
  obtain ⟨primaries, primaryParsed, inPrimaries⟩ := parseFiles_crossedFiles_second
  obtain ⟨succeeds, _, agrees⟩ := build_agrees_with_parse crossedFiles crossedInputs
    (Or.inr (List.cons_ne_nil _ _))
  have allParsed : ∃ combined,
      (parseFiles crossedFiles crossedInputs.order crossedInputs.paths).1 = .ok combined := by
    rw [Inputs.paths, parseFiles_append]
    simp only [crossedInputs, Option.toList_some, filesParsed, primaryParsed]
    exact ⟨_, rfl⟩
  obtain ⟨provider, built⟩ := succeeds.2 allParsed
  obtain ⟨_, sameFiles, samePrimaries, _, filesAgain, primaryAgain, agreement⟩ :=
    agrees provider built
  obtain rfl := Except.ok.inj (filesParsed.symm.trans filesAgain)
  obtain rfl := Except.ok.inj (primaryParsed.symm.trans primaryAgain)
  refine ⟨provider, built, ?_, ?_⟩
  · rw [agreement.default]
    exact inPrimaries
  · rw [agreement.ownName "c" rfl]
    exact inFiles

end HostResolver.Provider
