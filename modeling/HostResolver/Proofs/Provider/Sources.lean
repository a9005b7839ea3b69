import HostResolver.Provider.Lookup
import HostResolver.Proofs.Config.ServerLines
import HostResolver.Proofs.Provider.Building

/-!
The sources that a provider is built with.

Owns: that each of them has servers and is in the order that was asked for, and that there is none
exactly if no file of the provider has a `nameserver` line.

Does not own: which of the sources answers for a host.
-/

namespace HostResolver.Provider

open HostResolver.Config HostResolver.Document HostResolver.Files HostResolver.Servers

/-- Whether all sources of a provider have servers and one order. -/
def UsesOrder (provider : ServerProvider) (order : Order) : Prop :=
  ∀ choice source, provider.source? choice = some source →
    source.servers ≠ [] ∧ source = .ofServers order source.servers

/-- The maps that a built provider is made from. -/
theorem maps_of_build {tree : FileTree} {inputs : Inputs} {provider : ServerProvider}
    (built : (ServerProvider.build tree inputs).1 = .ok provider) :
    ∃ files primaries,
      (parseFiles tree inputs.order inputs.overrideFiles).1 = .ok files ∧
      (parseFiles tree inputs.order inputs.primary.toList).1 = .ok primaries ∧
      Sources.ofProvider provider = Sources.combine inputs.ownName files primaries := by
  have given : inputs.primary ≠ none ∨ inputs.overrideFiles ≠ [] := by
    by_contra neither
    rw [not_or, not_not, not_not] at neither
    simp [ServerProvider.build, neither.1, neither.2] at built
  have sourcesRead := sources_of_build tree given
  rw [built] at sourcesRead
  exact Sources.maps_of_read sourcesRead.symm

/-- A provider is built from maps that are parsed. -/
theorem exists_build {tree : FileTree} {inputs : Inputs} {files primaries : DomainMap}
    (given : inputs.primary ≠ none ∨ inputs.overrideFiles ≠ [])
    (filesParsed : (parseFiles tree inputs.order inputs.overrideFiles).1 = .ok files)
    (primaryParsed : (parseFiles tree inputs.order inputs.primary.toList).1 = .ok primaries) :
    ∃ provider, (ServerProvider.build tree inputs).1 = .ok provider ∧
      Sources.ofProvider provider = Sources.combine inputs.ownName files primaries := by
  have combined := sources_of_build tree given
  rw [Sources.read_eq_combine, filesParsed, primaryParsed] at combined
  exact eq_ok_of_map combined

/-- The default source is one of the primary file, an override one of any file. -/
theorem source?_of_combine {own : Option String} {files primaries : DomainMap}
    {provider : ServerProvider}
    (combined : Sources.ofProvider provider = Sources.combine own files primaries) :
    provider.source? .default = own.bind primaries.get? ∧
      ∀ domain, provider.source? (.override domain) =
        (files.get? domain).or (if own = some domain then none else primaries.get? domain) := by
  refine ⟨congrArg Sources.default combined, ?_⟩
  intro domain
  have overrides := congrArg Sources.overrides combined
  change provider.overrides = _ at overrides
  change provider.overrides.get? domain = _
  rw [overrides, Sources.combine, DomainMap.get?_insertAll, ← get?_elim_erase]
  rfl

/-- **Every source of a built provider** has servers, in the order that was asked for. -/
theorem usesOrder_of_build {tree : FileTree} {inputs : Inputs} {provider : ServerProvider}
    {order : Order} (named : Order.ofValue? inputs.order = some order)
    (built : (ServerProvider.build tree inputs).1 = .ok provider) : UsesOrder provider order := by
  obtain ⟨files, primaries, filesParsed, primaryParsed, combined⟩ := maps_of_build built
  obtain ⟨defaultSource, overrideSource⟩ := source?_of_combine combined
  have ofEither (source : Source)
      (found : (∃ domain, files.get? domain = some source) ∨
        ∃ domain, primaries.get? domain = some source) :
      source.servers ≠ [] ∧ source = .ofServers order source.servers := by
    rcases found with ⟨domain, found⟩ | ⟨domain, found⟩
    · obtain ⟨servers, nonempty, rfl⟩ := servers_of_get? named filesParsed found
      exact ⟨nonempty, rfl⟩
    · obtain ⟨servers, nonempty, rfl⟩ := servers_of_get? named primaryParsed found
      exact ⟨nonempty, rfl⟩
  intro choice source found
  apply ofEither
  cases choice with
  | default =>
      rw [defaultSource, Option.bind_eq_some_iff] at found
      obtain ⟨domain, _, found⟩ := found
      exact Or.inr ⟨domain, found⟩
  | override domain =>
      rw [overrideSource, Option.or_eq_some_iff] at found
      rcases found with found | ⟨_, found⟩
      · exact Or.inl ⟨domain, found⟩
      · by_cases own : inputs.ownName = some domain
        · simp [own] at found
        · rw [if_neg own] at found
          exact Or.inr ⟨domain, found⟩

/-- **A built provider has no source exactly if no file of it has a `nameserver` line.** -/
theorem forall_source?_eq_none_iff {tree : FileTree} {inputs : Inputs} {provider : ServerProvider}
    (built : (ServerProvider.build tree inputs).1 = .ok provider) :
    (∀ choice, provider.source? choice = none) ↔
      ∀ path ∈ inputs.paths, ¬HasServerLine tree path := by
  obtain ⟨files, primaries, filesParsed, primaryParsed, combined⟩ := maps_of_build built
  obtain ⟨defaultSource, overrideSource⟩ := source?_of_combine combined
  rw [Inputs.paths, List.forall_mem_append, ← forall_get?_eq_none_iff filesParsed,
    ← forall_get?_eq_none_iff primaryParsed]
  constructor
  · intro none
    refine ⟨?_, ?_⟩
    · intro domain
      have overridden := none (.override domain)
      rw [overrideSource, Option.or_eq_none_iff] at overridden
      exact overridden.1
    · intro domain
      by_cases own : inputs.ownName = some domain
      · -- The section of the primary file under its own name is the default source.
        have defaulted := none .default
        rw [defaultSource, own] at defaulted
        exact defaulted
      · have overridden := none (.override domain)
        rw [overrideSource, Option.or_eq_none_iff, if_neg own] at overridden
        exact overridden.2
  · rintro ⟨noFiles, noPrimaries⟩ choice
    cases choice with
    | default =>
        rw [defaultSource, Option.bind_eq_none_iff]
        intro domain _
        exact noPrimaries domain
    | override domain =>
        rw [overrideSource, noFiles, noPrimaries]
        simp

theorem get?_of_isEmpty {map : DomainMap} (empty : map.isEmpty = true) (domain : String) :
    map.get? domain = none := by
  have noEntries : map.entries = [] := List.isEmpty_iff.1 empty
  rw [DomainMap.get?, noEntries]
  rfl

/-- Without overrides the default source answers for every host. -/
theorem choose_of_isEmpty {provider : ServerProvider} (empty : provider.overrides.isEmpty = true)
    (host : String) : provider.choose host = .default := by
  have unfiled : ((candidates host.toList).map String.ofList).find? (fun name =>
      (provider.overrides.get? name).isSome) = none := by
    rw [List.find?_eq_none]
    intro name _
    rw [get?_of_isEmpty empty]
    exact Bool.false_ne_true
  rw [ServerProvider.choose, unfiled]

/-- A primary file with one section, that of its own name, gives its default source and no
overrides. -/
theorem exists_build_of_own {tree : FileTree} {inputs : Inputs} {primary : Path} {order : Order}
    {source : Source} (given : inputs.primary = some primary) (alone : inputs.overrideFiles = [])
    (isOrder : Order.ofValue? inputs.order = some order)
    (parsed : (parseFiles tree inputs.order [primary]).1.toOption.map DomainMap.entries =
      some [(primary.baseName, source)]) :
    ∃ provider, (ServerProvider.build tree inputs).1 = .ok provider ∧
      provider.default = some source ∧ provider.overrides = .empty := by
  cases primaryParsed : (parseFiles tree inputs.order [primary]).1 with
  | error error =>
      rw [primaryParsed] at parsed
      exact absurd parsed.symm (Option.some_ne_none _)
  | ok primaries =>
      have entries : primaries.entries = [(primary.baseName, source)] := by
        rw [primaryParsed] at parsed
        exact Option.some.inj parsed
      have ownName : inputs.ownName = some primary.baseName := by
        rw [Inputs.ownName, given]
        rfl
      have filesParsed : (parseFiles tree inputs.order inputs.overrideFiles).1 = .ok .empty := by
        rw [alone]
        exact parseFiles_nil isOrder
      have listParsed : (parseFiles tree inputs.order inputs.primary.toList).1 = .ok primaries := by
        rw [given]
        exact primaryParsed
      have hasPrimary : inputs.primary ≠ none ∨ inputs.overrideFiles ≠ [] :=
        Or.inl (by simp [given])
      obtain ⟨provider, built, combined⟩ := exists_build hasPrimary filesParsed listParsed
      refine ⟨provider, built, ?_, ?_⟩
      · rw [show provider.default = _ from (source?_of_combine combined).1, ownName]
        change primaries.entries.lookup primary.baseName = _
        rw [entries]
        exact List.lookup_cons_self
      · have overrides := congrArg Sources.overrides combined
        rw [ownName] at overrides
        change provider.overrides =
          DomainMap.empty.insertAll (primaries.erase primary.baseName).entries at overrides
        have noOthers : (primaries.erase primary.baseName).entries = [] := by
          unfold DomainMap.erase
          simp [entries]
        rw [overrides, noOthers]
        rfl

/-! ### One file with two servers -/

/-- What the file `r` of `pairedFiles` holds. -/
def pairedBytes : List UInt8 := asciiBytes "nameserver 10.0.0.1\nnameserver 10.0.0.2\n"

def pairedFiles : FileTree where
  entries := [(["r"], .file pairedBytes .full)]

/-- The primary file `r`, and an order for its servers. -/
def pairedInputs (order : Order) : Inputs where
  primary := some ⟨"", ["r"]⟩
  overrideFiles := []
  order := .text order.name
  environmentOptions := none

def pairedServers : List Address.Endpoint :=
  [⟨.v4 ⟨10, 0, 0, 1⟩, Address.dnsPort⟩, ⟨.v4 ⟨10, 0, 0, 2⟩, Address.dnsPort⟩]

theorem ofValue?_pairedInputs (order : Order) :
    Order.ofValue? (pairedInputs order).order = some order := by
  cases order <;> decide

theorem bytes?_pairedFiles : pairedFiles.bytes? ⟨"", ["r"]⟩ = .ok (some pairedBytes) :=
  FileTree.bytes?_of_walk (by decide) (by decide) (by decide) rfl rfl rfl

theorem parseFiles_pairedFiles (order : Order) :
    ((parseFiles pairedFiles (pairedInputs order).order [⟨"", ["r"]⟩]).1.toOption.map
      DomainMap.entries) = some [("r", .ofServers order pairedServers)] := by
  rw [parseFiles, ofValue?_pairedInputs]
  cases order
  all_goals
    simp only [Book.readFiles, Book.readFile_of_bytes bytes?_pairedFiles]
    decide +kernel

theorem build_pairedFiles (order : Order) :
    ∃ provider, (ServerProvider.build pairedFiles (pairedInputs order)).1 = .ok provider ∧
      provider.source? .default = some (.ofServers order pairedServers) ∧
      provider.overrides.isEmpty = true := by
  obtain ⟨provider, built, default, overrides⟩ :=
    exists_build_of_own rfl rfl (ofValue?_pairedInputs order) (parseFiles_pairedFiles order)
  refine ⟨provider, built, default, ?_⟩
  rw [overrides]
  rfl

end HostResolver.Provider
