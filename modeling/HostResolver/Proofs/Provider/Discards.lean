import HostResolver.Proofs.Provider.Sources

/-!
What becomes of the sections of the files that a provider is built from.

Owns: that a parse and a building report the sections that they drop, in the order in which they
drop them, and that each section with servers is either reported, or an entry of the map, or the
default source.

Does not own: which discards a list of entries makes.
-/

namespace HostResolver.Config

open HostResolver.Document HostResolver.Files HostResolver.Servers

/-! ## Parses -/

/-- What a parse makes of the entries of sections. -/
structure ParseAccount (entries : List (String × Source)) (map : DomainMap)
    (reported : List Discard) : Prop where
  inOrder : reported = discardsBehind [] entries
  count : entries.length = map.entries.length + reported.length
  all : entries.Perm (map.entries ++ reported.map Discard.entry)

theorem perm_empty_insertAll (entries : List (String × Source)) :
    entries.Perm ((DomainMap.empty.insertAll entries).entries ++
      (discardsBehind [] entries).map Discard.entry) :=
  DomainMap.perm_insertAll .empty entries

/-- What a parse files and what it reports. -/
theorem filing_of_parseFiles {tree : FileTree} {given : Value} {paths : List Path}
    {map : DomainMap} {order : Order} (named : Order.ofValue? given = some order)
    (parsed : (parseFiles tree given paths).1 = .ok map) :
    map = DomainMap.empty.insertAll (entriesOf order (paths.flatMap (sectionsAt tree))) ∧
      discards (parseFiles tree given paths).2 =
        discardsBehind [] (entriesOf order (paths.flatMap (sectionsAt tree))) := by
  obtain ⟨known, later, namedAgain, filesRead, rfl⟩ := parseFiles_eq_ok parsed
  obtain rfl := Option.some.inj (named.symm.trans namedAgain)
  have events : (parseFiles tree given paths).2 = later.events := by
    simp only [parseFiles, named, filesRead]
  obtain ⟨filed, _⟩ := filing_of_readFiles filesRead
  rw [events, filed.map, filed.discards, Book.map_fileAll, Book.discards_fileAll]
  exact ⟨rfl, rfl⟩

theorem parseAccount_of_parseFiles {tree : FileTree} {given : Value} {paths : List Path}
    {map : DomainMap} {order : Order} (named : Order.ofValue? given = some order)
    (parsed : (parseFiles tree given paths).1 = .ok map) :
    ParseAccount (entriesOf order (paths.flatMap (sectionsAt tree))) map
      (discards (parseFiles tree given paths).2) := by
  obtain ⟨filed, reported⟩ := filing_of_parseFiles named parsed
  have all := perm_empty_insertAll (entriesOf order (paths.flatMap (sectionsAt tree)))
  rw [← filed, ← reported] at all
  refine ⟨reported, ?_, all⟩
  have count := all.length_eq
  rwa [List.length_append, List.length_map] at count

/-! ## Options -/

namespace Options

theorem discards_applyWord (options : Options) (word : List Char) :
    discards (options.applyWord word).2 = [] := by
  rw [applyWord]
  split
  · rfl
  · split
    · rfl
    · split <;> rfl

theorem discards_applyWords (options : Options) (words : List (List Char)) :
    discards (options.applyWords words).2 = [] := by
  induction words generalizing options with
  | nil => rfl
  | cons word others inductionHypothesis =>
      rw [applyWords, discards_append, discards_applyWord, inductionHypothesis]
      rfl

theorem discards_applyLines (options : Options) (lines : List (List Char)) :
    discards (options.applyLines lines).2 = [] := by
  induction lines generalizing options with
  | nil => rfl
  | cons line others inductionHypothesis =>
      rw [applyLines]
      split
      · exact inductionHypothesis options
      · rw [discards_append, applyText, discards_applyWords, inductionHypothesis]
        rfl

/-- The reading of options reports no discards. -/
theorem discards_ofLines (lines : List (List Char)) (environment : Option String) :
    discards (Options.ofLines lines environment).2 = [] := by
  cases environment with
  | none => exact discards_applyLines {} lines
  | some text =>
      rw [Options.ofLines, discards_append, discards_applyLines, applyText, discards_applyWords]
      rfl

end Options

end HostResolver.Config

namespace HostResolver.Provider

open HostResolver.Address HostResolver.Config HostResolver.Document HostResolver.Files
  HostResolver.Servers

/-! ## Reports of a building -/

theorem discards_of_readPrimary {tree : FileTree} {inputs : Inputs} {options : Options}
    {events : List Event} {searchDomains : List String}
    (primaryRead : ServerProvider.readPrimary tree inputs = .ok (options, events, searchDomains)) :
    discards events = [] := by
  rw [ServerProvider.readPrimary] at primaryRead
  cases given : inputs.primary with
  | none =>
      simp only [given, Except.ok.injEq, Prod.mk.injEq] at primaryRead
      rw [← primaryRead.2.1]
      rfl
  | some path =>
      simp only [given, Options.ofFile, SearchList.ofFile] at primaryRead
      cases linesFound : linesAt tree path with
      | error error => simp [linesFound, Except.map, bind, Except.bind] at primaryRead
      | ok lines =>
          simp only [linesFound, Except.map, bind, Except.bind, pure, Except.pure,
            Except.ok.injEq, Prod.mk.injEq] at primaryRead
          rw [← primaryRead.2.1]
          exact Options.discards_ofLines lines _

/-- The discards of the parses come first, then those of the sections of the primary file that are
filed behind the override files. -/
theorem discards_of_read {tree : FileTree} {inputs : Inputs} {order : Order}
    {files primaries : DomainMap} (named : Order.ofValue? inputs.order = some order)
    (filesParsed : (parseFiles tree inputs.order inputs.overrideFiles).1 = .ok files)
    (primaryParsed : (parseFiles tree inputs.order inputs.primary.toList).1 = .ok primaries) :
    discards (Sources.read tree inputs).2 =
      discards (parseFiles tree inputs.order inputs.overrideFiles).2 ++
        discards (parseFiles tree inputs.order inputs.primary.toList).2 ++
        discardsBehind files.entries (inputs.ownName.elim primaries primaries.erase).entries := by
  obtain ⟨primary, overrideFiles, given, environment⟩ := inputs
  simp only at named filesParsed primaryParsed ⊢
  cases primary with
  | none =>
      rw [Option.toList_none, parseFiles_of_nil named] at primaryParsed ⊢
      obtain rfl := Except.ok.inj primaryParsed
      have merged : discardsBehind files.entries DomainMap.empty.entries = [] := rfl
      simp only [Sources.read, Inputs.ownName, Option.map_none, Option.elim_none, merged,
        discards_nil, List.append_nil]
  | some path =>
      cases overrideFiles with
      | nil =>
          rw [parseFiles_of_nil named] at filesParsed ⊢
          obtain rfl := Except.ok.inj filesParsed
          -- The sections of the primary file are filed with nothing in front of them.
          have distinct : (([] ++ (primaries.erase path.baseName).entries).map Prod.fst).Nodup :=
            (primaries.erase path.baseName).nodup
          have noDiscards : discardsBehind DomainMap.empty.entries
              (primaries.erase path.baseName).entries = [] := discardsBehind_of_nodup distinct
          simp only [Sources.read, List.isEmpty_nil, if_true, Inputs.ownName, Option.map_some,
            Option.elim_some, noDiscards, discards_nil, List.nil_append, List.append_nil,
            Option.toList_some]
      | cons first rest =>
          unfold Sources.read
          cases filesRun : parseFiles tree given (first :: rest) with
          | mk outcome events =>
              cases primaryRun : parseFiles tree given [path] with
              | mk otherOutcome more =>
                  rw [filesRun] at filesParsed
                  rw [Option.toList_some, primaryRun] at primaryParsed
                  simp only at filesParsed primaryParsed
                  subst filesParsed primaryParsed
                  simp only [List.isEmpty_cons, Bool.false_eq_true, if_false, Option.toList_some,
                    primaryRun, Book.discards_fileAll, discards_append]
                  rfl

/-- The options and the search list add no discards to those of the sources. -/
theorem discards_of_build {tree : FileTree} {inputs : Inputs} {provider : ServerProvider}
    (built : (ServerProvider.build tree inputs).1 = .ok provider) :
    discards (ServerProvider.build tree inputs).2 = discards (Sources.read tree inputs).2 := by
  rw [ServerProvider.build] at built ⊢
  by_cases neither : (inputs.primary.isNone && inputs.overrideFiles.isEmpty) = true
  · rw [if_pos neither] at built
    simp at built
  · rw [if_neg neither] at built ⊢
    cases sourcesRead : Sources.read tree inputs with
    | mk outcome events =>
        cases outcome with
        | error error => simp [sourcesRead] at built
        | ok sources =>
            cases primaryRead : ServerProvider.readPrimary tree inputs with
            | error error => simp [sourcesRead, primaryRead] at built
            | ok result =>
                obtain ⟨options, optionEvents, searchDomains⟩ := result
                simp only [discards_append, discards_of_readPrimary primaryRead]
                exact (List.append_nil _).trans (List.append_nil _)

/-! ## Providers -/

/-- What is filed of the primary file behind the override files: the first entry of each domain but
that of the name of the file. -/
def mergedEntries (own : Option String) (entries : List (String × Source)) :
    List (String × Source) :=
  (firstOfEach entries).filter fun entry => decide (own ≠ some entry.1)

/-- The default source of a provider, if it has one, under the name of its primary file. -/
def defaultEntries (own : Option String) (provider : ServerProvider) : List (String × Source) :=
  (own.bind fun name => provider.default.map fun source => (name, source)).toList

/-- What a provider makes of the entries of the sections of its override files and of its primary
file, which has the name `own`. -/
structure ProviderAccount (own : Option String) (files primaries : List (String × Source))
    (provider : ServerProvider) (reported : List Discard) : Prop where
  inOrder : reported =
    discardsBehind [] files ++ discardsBehind [] primaries ++
      discardsBehind files (mergedEntries own primaries)
  count : files.length + primaries.length =
    provider.overrides.entries.length + (if provider.default.isSome then 1 else 0) +
      reported.length
  all : (files ++ primaries).Perm
    (provider.overrides.entries ++ defaultEntries own provider ++
      reported.map Discard.entry)

/-- The map of the primary file holds the default source and what is filed behind the override
files. -/
theorem perm_defaultEntries {own : Option String} {files primaries : DomainMap}
    {provider : ServerProvider}
    (combined : Sources.ofProvider provider = Sources.combine own files primaries) :
    primaries.entries.Perm
      (defaultEntries own provider ++ (own.elim primaries primaries.erase).entries) := by
  have default : provider.default = own.bind primaries.get? := congrArg Sources.default combined
  cases own with
  | none => exact .refl _
  | some name =>
      rw [defaultEntries, Option.bind_some, default, Option.bind_some]
      exact perm_lookup_filter name primaries.nodup

theorem length_defaultEntries {own : Option String} {files primaries : DomainMap}
    {provider : ServerProvider}
    (combined : Sources.ofProvider provider = Sources.combine own files primaries) :
    (defaultEntries own provider).length = if provider.default.isSome then 1 else 0 := by
  have default : provider.default = own.bind primaries.get? := congrArg Sources.default combined
  rw [defaultEntries]
  cases own with
  | none =>
      rw [default]
      rfl
  | some name => cases provider.default <;> rfl

/-- What is filed and dropped if entries of the primary file are filed behind those of the override
files. -/
theorem perm_combine {own : Option String} {files primaries : DomainMap} {provider : ServerProvider}
    (combined : Sources.ofProvider provider = Sources.combine own files primaries) :
    (files.entries ++ primaries.entries).Perm
      (provider.overrides.entries ++ defaultEntries own provider ++
        (discardsBehind files.entries
          (own.elim primaries primaries.erase).entries).map Discard.entry) := by
  have overrides : provider.overrides =
      files.insertAll (own.elim primaries primaries.erase).entries :=
    congrArg Sources.overrides combined
  have apart := perm_defaultEntries combined
  have merged := DomainMap.perm_insertAll files (own.elim primaries primaries.erase).entries
  rw [← overrides] at merged
  -- Each entry occurs as often on either side.
  simp only [List.perm_iff_count, List.count_append] at apart merged ⊢
  intro entry
  have inPrimaries := apart entry
  have inMerge := merged entry
  omega

/-- What is dropped where the maps are combined, by the entries that they are made from. -/
theorem discardsBehind_merged (own : Option String)
    (fileEntries primaryEntries : List (String × Source)) :
    discardsBehind (DomainMap.empty.insertAll fileEntries).entries
        (own.elim (DomainMap.empty.insertAll primaryEntries)
          (DomainMap.empty.insertAll primaryEntries).erase).entries =
      discardsBehind fileEntries (mergedEntries own primaryEntries) := by
  rw [entries_elim_erase, DomainMap.entries_empty_insertAll, DomainMap.entries_empty_insertAll,
    mergedEntries]
  exact discardsBehind_congr (fun domain => lookup_firstOfEach domain fileEntries) _

/-- What becomes of the entries of the override files and of the primary file if each of them are
filed and then the maps are combined. -/
theorem providerAccount_of_combine {own : Option String} {provider : ServerProvider}
    {fileEntries primaryEntries : List (String × Source)}
    (combined : Sources.ofProvider provider =
      Sources.combine own (DomainMap.empty.insertAll fileEntries)
        (DomainMap.empty.insertAll primaryEntries)) :
    ProviderAccount own fileEntries primaryEntries provider
      (discardsBehind [] fileEntries ++ discardsBehind [] primaryEntries ++
        discardsBehind fileEntries (mergedEntries own primaryEntries)) := by
  have ofFiles := perm_empty_insertAll fileEntries
  have ofPrimary := perm_empty_insertAll primaryEntries
  have ofBoth := perm_combine combined
  rw [discardsBehind_merged] at ofBoth
  have all : (fileEntries ++ primaryEntries).Perm
      (provider.overrides.entries ++ defaultEntries own provider ++
        (discardsBehind [] fileEntries ++ discardsBehind [] primaryEntries ++
          discardsBehind fileEntries (mergedEntries own primaryEntries)).map Discard.entry) := by
    simp only [List.perm_iff_count, List.count_append, List.map_append]
      at ofFiles ofPrimary ofBoth ⊢
    intro entry
    have inFiles := ofFiles entry
    have inPrimary := ofPrimary entry
    have inBoth := ofBoth entry
    omega
  refine ⟨rfl, ?_, all⟩
  have count := all.length_eq
  rwa [List.length_append, List.length_append, List.length_append, List.length_map,
    length_defaultEntries combined] at count

/-- **A building drops nothing without a report.** -/
theorem providerAccount_of_build {tree : FileTree} {inputs : Inputs} {provider : ServerProvider}
    {order : Order} (named : Order.ofValue? inputs.order = some order)
    (built : (ServerProvider.build tree inputs).1 = .ok provider) :
    ProviderAccount inputs.ownName
      (entriesOf order (inputs.overrideFiles.flatMap (sectionsAt tree)))
      (entriesOf order (inputs.primary.toList.flatMap (sectionsAt tree))) provider
      (discards (ServerProvider.build tree inputs).2) := by
  obtain ⟨files, primaries, filesParsed, primaryParsed, combined⟩ := maps_of_build built
  obtain ⟨filesFiled, filesReported⟩ := filing_of_parseFiles named filesParsed
  obtain ⟨primariesFiled, primariesReported⟩ := filing_of_parseFiles named primaryParsed
  rw [filesFiled, primariesFiled] at combined
  rw [discards_of_build built, discards_of_read named filesParsed primaryParsed, filesReported,
    primariesReported, filesFiled, primariesFiled, discardsBehind_merged]
  exact providerAccount_of_combine combined

/-- **No section disappears silently.** Whatever is parsed or built, each section with servers of
the files that are read is an entry of the map, or the default source, or reported; and there are as
many sections as entries, default sources and reports. What is reported at the level for debugging
is each section whose domain is filed before in the map that is being made, with the source that is
filed there: first in the override files, then in the primary file, then where the sections of the
primary file are filed behind those of the override files. -/
theorem every_section_is_kept_or_reported (tree : FileTree) :
    (∀ given paths map, (parseFiles tree given paths).1 = .ok map →
      ∃ order, Order.ofValue? given = some order ∧
        ParseAccount (entriesOf order (paths.flatMap (sectionsAt tree))) map
          (discards (observed .debug (parseFiles tree given paths).2))) ∧
      ∀ inputs provider, (ServerProvider.build tree inputs).1 = .ok provider →
        ∃ order, Order.ofValue? inputs.order = some order ∧
          ProviderAccount inputs.ownName
            (entriesOf order (inputs.overrideFiles.flatMap (sectionsAt tree)))
            (entriesOf order (inputs.primary.toList.flatMap (sectionsAt tree))) provider
            (discards (observed .debug (ServerProvider.build tree inputs).2)) := by
  constructor
  · intro given paths map parsed
    obtain ⟨order, _, named, _, _⟩ := parseFiles_eq_ok parsed
    rw [observed_debug]
    exact ⟨order, named, parseAccount_of_parseFiles named parsed⟩
  · intro inputs provider built
    obtain ⟨files, _, filesParsed, _, _⟩ := maps_of_build built
    obtain ⟨order, _, named, _, _⟩ := parseFiles_eq_ok filesParsed
    rw [observed_debug]
    exact ⟨order, named, providerAccount_of_build named built⟩

/-- What the sections of the file `a.b` of `crossedFiles` file. -/
def firstEntries : List (String × Source) :=
  [("a.b", ⟨.single, [⟨.v6 ⟨#v[0, 0, 0, 0, 0, 0, 0, 1], none⟩, dnsPort⟩]⟩),
    ("c", ⟨.single, [⟨.v6 ⟨#v[0, 0, 0, 0, 0, 0, 0, 3], none⟩, dnsPort⟩]⟩)]

/-- What the sections of the file `c` of `crossedFiles` file. -/
def secondEntries : List (String × Source) :=
  [("c", ⟨.single, [⟨.v4 ⟨10, 0, 0, 1⟩, ⟨5, by decide⟩⟩]⟩),
    ("a.b", ⟨.single, [⟨.v6 ⟨#v[0, 0, 0, 0, 0, 0, 0, 2], none⟩, ⟨5, by decide⟩⟩]⟩)]

theorem entriesOf_crossedFiles_first :
    entriesOf .failover (sectionsAt crossedFiles ⟨"", ["a.b"]⟩) = firstEntries := by
  rw [sectionsAt, textAt, bytes?_crossedFiles_first]
  decide +kernel

theorem entriesOf_crossedFiles_second :
    entriesOf .failover (sectionsAt crossedFiles ⟨"", ["c"]⟩) = secondEntries := by
  rw [sectionsAt, textAt, bytes?_crossedFiles_second]
  decide +kernel

/-- Both files have the domains `a.b` and `c`. In one parse both sections of the second file are
dropped; if it is the primary file, its own section gives the default servers. -/
theorem every_section_is_kept_or_reported_met :
    ∃ map provider,
      (parseFiles crossedFiles (.text "failover") [⟨"", ["a.b"]⟩, ⟨"", ["c"]⟩]).1 = .ok map ∧
      (ServerProvider.build crossedFiles crossedInputs).1 = .ok provider ∧
      discards (observed .debug (parseFiles crossedFiles (.text "failover")
          [⟨"", ["a.b"]⟩, ⟨"", ["c"]⟩]).2) =
        [⟨"c", ⟨.single, [⟨.v6 ⟨#v[0, 0, 0, 0, 0, 0, 0, 3], none⟩, dnsPort⟩]⟩,
            ⟨.single, [⟨.v4 ⟨10, 0, 0, 1⟩, 5⟩]⟩⟩,
          ⟨"a.b", ⟨.single, [⟨.v6 ⟨#v[0, 0, 0, 0, 0, 0, 0, 1], none⟩, dnsPort⟩]⟩,
            ⟨.single, [⟨.v6 ⟨#v[0, 0, 0, 0, 0, 0, 0, 2], none⟩, 5⟩]⟩⟩] ∧
      discards (observed .debug (ServerProvider.build crossedFiles crossedInputs).2) =
        [⟨"a.b", ⟨.single, [⟨.v6 ⟨#v[0, 0, 0, 0, 0, 0, 0, 1], none⟩, dnsPort⟩]⟩,
            ⟨.single, [⟨.v6 ⟨#v[0, 0, 0, 0, 0, 0, 0, 2], none⟩, 5⟩]⟩⟩] ∧
      4 = map.entries.length + 2 ∧
      4 = provider.overrides.entries.length + (if provider.default.isSome then 1 else 0) + 1 := by
  obtain ⟨ofParses, ofBuildings⟩ := every_section_is_kept_or_reported crossedFiles
  obtain ⟨map, parsed, _⟩ := parseFiles_crossedFiles
  obtain ⟨files, filesParsed, _⟩ := parseFiles_crossedFiles_first
  obtain ⟨primaries, primaryParsed, _⟩ := parseFiles_crossedFiles_second
  have given : crossedInputs.primary ≠ none ∨ crossedInputs.overrideFiles ≠ [] :=
    Or.inr (List.cons_ne_nil _ _)
  obtain ⟨provider, built, _⟩ := exists_build given filesParsed primaryParsed
  obtain ⟨order, named, ofMap⟩ := ofParses _ _ map parsed
  obtain ⟨sameOrder, namedAgain, ofProvider⟩ := ofBuildings _ provider built
  obtain rfl := Option.some.inj (ofValue?_failover.symm.trans named)
  obtain rfl := Option.some.inj (ofValue?_failover.symm.trans namedAgain)
  have bothEntries : entriesOf .failover ([⟨"", ["a.b"]⟩, ⟨"", ["c"]⟩].flatMap
      (sectionsAt crossedFiles)) = firstEntries ++ secondEntries := by
    rw [List.flatMap_cons, List.flatMap_singleton, entriesOf_append,
      entriesOf_crossedFiles_first, entriesOf_crossedFiles_second]
  have fileEntries : entriesOf .failover (crossedInputs.overrideFiles.flatMap
      (sectionsAt crossedFiles)) = firstEntries := by
    rw [crossedInputs, List.flatMap_singleton, entriesOf_crossedFiles_first]
  have primaryEntries : entriesOf .failover (crossedInputs.primary.toList.flatMap
      (sectionsAt crossedFiles)) = secondEntries := by
    rw [crossedInputs, Option.toList_some, List.flatMap_singleton, entriesOf_crossedFiles_second]
  rw [bothEntries] at ofMap
  rw [fileEntries, primaryEntries] at ofProvider
  have mapReports := ofMap.inOrder
  have providerReports := ofProvider.inOrder
  refine ⟨map, provider, parsed, built, ?_, ?_, ?_, ?_⟩
  · rw [mapReports]
    decide +kernel
  · rw [providerReports]
    decide +kernel
  · have count := ofMap.count
    have two : (discardsBehind [] (firstEntries ++ secondEntries)).length = 2 := by
      decide +kernel
    rwa [mapReports, two] at count
  · have count := ofProvider.count
    have one : (discardsBehind [] firstEntries ++ discardsBehind [] secondEntries ++
        discardsBehind firstEntries (mergedEntries (some "c") secondEntries)).length = 1 := by
      decide +kernel
    have ownName : crossedInputs.ownName = some "c" := rfl
    rwa [providerReports, ownName, one] at count

end HostResolver.Provider
