import HostResolver.Proofs.Provider.Sources

/-!
The default servers of a provider against the lines in front of the first `domain` line.

Owns: which section of a file is the leading one and which ones are opened by `domain` lines, what
the first section of a domain files, and from these exactly when a provider keeps the leading
section of its primary file apart from the others.

Does not own: the building of a provider from maps.

The leading section has no domain, so it is filed under the name of its file. A `domain` line may
say that name too.
-/

namespace HostResolver.Config

open HostResolver.Address HostResolver.Servers

variable {order : Order}

/-! ## The leading section -/

/-- The servers of the lines in front of the first `domain` line, with the port in use at each. -/
def leadingServers (earlier lines : List (List Char)) : List Endpoint :=
  ((lines.mapIdx fun index line => (portBehind (earlier ++ lines.take index), line)).takeWhile
    fun line => (domainOf? line.2).isNone).filterMap fun line => serverOf? line.1 line.2

/-- Behind the leading section there is one section for each `domain` line. -/
theorem exists_named (earlier : List (List Char)) (name : String) (lines : List (List Char)) :
    ∃ named, sectionsBehind earlier name lines = ⟨name, leadingServers earlier lines⟩ :: named ∧
      named.map Section.domain = lines.filterMap domainOf? := by
  induction lines generalizing earlier name with
  | nil => exact ⟨[], sectionsBehind_nil earlier name, rfl⟩
  | cons line rest inductionHypothesis =>
      cases opened : domainOf? line with
      | some domain =>
          obtain ⟨named, split, domains⟩ := inductionHypothesis (earlier ++ [line]) domain
          have nothing : leadingServers earlier (line :: rest) = [] := by
            unfold leadingServers
            rw [placed_cons, List.takeWhile_cons_of_neg (by simp [opened])]
            rfl
          refine ⟨⟨domain, leadingServers (earlier ++ [line]) rest⟩ :: named, ?_, ?_⟩
          · rw [sectionsBehind_domain opened, nothing, split]
          · rw [List.map_cons, domains, List.filterMap_cons_some opened]
      | none =>
          obtain ⟨named, split, domains⟩ := inductionHypothesis (earlier ++ [line]) name
          have further : leadingServers earlier (line :: rest) =
              (serverOf? (portBehind earlier) line).toList ++
                leadingServers (earlier ++ [line]) rest := by
            unfold leadingServers
            rw [placed_cons, List.takeWhile_cons_of_pos (by simp [opened]), List.filterMap_cons]
            cases serverOf? (portBehind earlier) line <;> rfl
          refine ⟨named, ?_, ?_⟩
          · rw [sectionsBehind_other opened, split, further]
            rfl
          · rw [domains, List.filterMap_cons_none opened]

/-! ## First sections -/

theorem lookup_entriesOf_cons (part : Section) (parts : List Section) (domain : String) :
    (entriesOf order (part :: parts)).lookup domain =
      if part.servers ≠ [] ∧ part.domain = domain then some (.ofServers order part.servers)
      else (entriesOf order parts).lookup domain := by
  by_cases empty : part.servers = []
  · have dropped : ¬(!part.servers.isEmpty) = true := by simp [empty]
    rw [if_neg fun both => both.1 empty, entriesOf, List.filter_cons, if_neg dropped]
    rfl
  · have kept : (!part.servers.isEmpty) = true := by simp [empty]
    rw [entriesOf, List.filter_cons, if_pos kept, List.map_cons, Section.entry]
    by_cases same : part.domain = domain
    · rw [if_pos ⟨empty, same⟩, same]
      exact List.lookup_cons_self
    · have different : (domain == part.domain) = false := beq_eq_false_iff_ne.2 (Ne.symm same)
      rw [if_neg fun both => same both.2]
      simp [List.lookup_cons, different, entriesOf]

theorem lookup_entriesOf_eq_none_iff {parts : List Section} {domain : String} :
    (entriesOf order parts).lookup domain = none ↔
      ∀ part ∈ parts, part.servers ≠ [] → part.domain ≠ domain := by
  induction parts with
  | nil => simp [entriesOf]
  | cons part others inductionHypothesis =>
      rw [lookup_entriesOf_cons, List.forall_mem_cons, ← inductionHypothesis]
      by_cases here : part.servers ≠ [] ∧ part.domain = domain
      · rw [if_pos here]
        simp [here]
      · rw [if_neg here]
        have different : part.servers ≠ [] → part.domain ≠ domain :=
          fun nonempty same => here ⟨nonempty, same⟩
        exact ⟨fun absent => ⟨different, absent⟩, fun both => both.2⟩

/-- The first section of a domain that has servers is the one that is found. -/
theorem lookup_entriesOf_first {before after : List Section} {part : Section}
    (nonempty : part.servers ≠ [])
    (first : ∀ earlier ∈ before, earlier.servers ≠ [] → earlier.domain ≠ part.domain) :
    (entriesOf order (before ++ part :: after)).lookup part.domain =
      some (.ofServers order part.servers) := by
  rw [entriesOf_append, List.lookup_append, lookup_entriesOf_eq_none_iff.2 first,
    lookup_entriesOf_cons, if_pos ⟨nonempty, rfl⟩]
  rfl

end HostResolver.Config

namespace HostResolver.Provider

open HostResolver.Address HostResolver.Config HostResolver.Document HostResolver.Files
  HostResolver.Servers

variable {order : Order} {own : String} {files primaries : DomainMap} {leading : List Endpoint}
  {named : List Section} {provider : ServerProvider}

/-! ## Keeping the leading section apart -/

/-- Whether a provider has the leading section of its primary file as default servers, and every
other section that has servers among its overrides, with these servers unless an override file or an
earlier section has the domain. -/
structure KeepsApart (order : Order) (files : DomainMap) (leading : List Endpoint)
    (named : List Section) (provider : ServerProvider) : Prop where
  default : provider.default = if leading = [] then none else some (.ofServers order leading)
  overridden : ∀ before part after, named = before ++ part :: after → part.servers ≠ [] →
    ∃ source, provider.overrides.get? part.domain = some source ∧
      (part.domain ∉ files.domains →
        (∀ earlier ∈ before, earlier.servers ≠ [] → earlier.domain ≠ part.domain) →
        source = .ofServers order part.servers)

/-- Whether the name of the primary file is not mistaken: no other section with servers says it, or
the leading section has servers and an override file has the name. -/
def NameIsApart (own : String) (files : DomainMap) (leading : List Endpoint)
    (named : List Section) : Prop :=
  (∀ part ∈ named, part.servers ≠ [] → part.domain ≠ own) ∨
    (leading ≠ [] ∧ own ∈ files.domains)

/-- What the sections of a primary file make of the sources of a provider. -/
structure Sections (order : Order) (own : String) (files : DomainMap) (leading : List Endpoint)
    (named : List Section) (provider : ServerProvider) : Prop where
  default : provider.default = (entriesOf order (⟨own, leading⟩ :: named)).lookup own
  override : ∀ domain, provider.overrides.get? domain = (files.get? domain).or
    (if own = domain then none else (entriesOf order named).lookup domain)

theorem keepsApart_of_nameIsApart (sections : Sections order own files leading named provider)
    (apart : NameIsApart own files leading named) :
    KeepsApart order files leading named provider := by
  constructor
  · rw [sections.default, lookup_entriesOf_cons]
    by_cases empty : leading = []
    · have unsaid := apart.resolve_right fun both => both.1 empty
      rw [if_neg fun both => both.1 empty, if_pos empty]
      exact lookup_entriesOf_eq_none_iff.2 unsaid
    · rw [if_pos ⟨empty, rfl⟩, if_neg empty]
  · intro before part after split nonempty
    have member : part ∈ named := by
      rw [split]
      simp
    rw [sections.override]
    cases filed : files.get? part.domain with
    | some source =>
        refine ⟨source, rfl, ?_⟩
        intro absent
        rw [DomainMap.get?_eq_none_iff.2 absent] at filed
        contradiction
    | none =>
        have different : own ≠ part.domain := by
          rintro rfl
          rcases apart with unsaid | ⟨_, inFiles⟩
          · exact unsaid part member nonempty rfl
          · exact DomainMap.get?_eq_none_iff.1 filed inFiles
        rw [if_neg different, Option.none_or]
        cases found : (entriesOf order named).lookup part.domain with
        | none => exact absurd rfl (lookup_entriesOf_eq_none_iff.1 found part member nonempty)
        | some source =>
            refine ⟨source, rfl, ?_⟩
            intro _ first
            rw [split, lookup_entriesOf_first nonempty first, Option.some.injEq] at found
            exact found.symm

/-- A section that says the name of its file is taken for the leading one, or left out. -/
theorem nameIsApart_of_keepsApart (sections : Sections order own files leading named provider)
    (keeps : KeepsApart order files leading named provider) :
    NameIsApart own files leading named := by
  by_cases unsaid : ∀ part ∈ named, part.servers ≠ [] → part.domain ≠ own
  · exact Or.inl unsaid
  have said : ∃ part ∈ named, part.servers ≠ [] ∧ part.domain = own := by simpa using unsaid
  obtain ⟨part, member, nonempty, same⟩ := said
  refine Or.inr ⟨?_, ?_⟩
  · intro empty
    -- The default servers would be those of the section that says the name.
    have default := keeps.default
    rw [sections.default, lookup_entriesOf_cons, if_neg fun both => both.1 empty,
      if_pos empty] at default
    exact lookup_entriesOf_eq_none_iff.1 default part member nonempty same
  · obtain ⟨before, after, split⟩ := List.append_of_mem member
    obtain ⟨source, found, _⟩ := keeps.overridden before part after split nonempty
    -- Nothing of the primary file is an override under its own name.
    rw [sections.override, same, if_pos rfl, Option.or_none] at found
    apply Decidable.byContradiction
    intro absent
    rw [DomainMap.get?_eq_none_iff.2 absent] at found
    contradiction

/-- The sources of a built provider, in terms of the sections of its primary file. -/
theorem sections_of_build {tree : FileTree} {inputs : Inputs} {primary : Path}
    (given : inputs.primary = some primary)
    (built : (ServerProvider.build tree inputs).1 = .ok provider)
    (split : sectionsAt tree primary = ⟨primary.baseName, leading⟩ :: named) :
    ∃ order files, Order.ofValue? inputs.order = some order ∧
      (parseFiles tree inputs.order inputs.overrideFiles).1 = .ok files ∧
      Sections order primary.baseName files leading named provider := by
  obtain ⟨files, primaries, filesParsed, primaryParsed, combined⟩ := maps_of_build built
  obtain ⟨defaultSource, overrideSource⟩ := source?_of_combine combined
  have own : inputs.ownName = some primary.baseName := by rw [Inputs.ownName, given]; rfl
  rw [given, Option.toList_some] at primaryParsed
  obtain ⟨order, isOrder, lookedUp, _⟩ := get?_of_parseFiles primaryParsed
  have inSections (domain : String) : primaries.get? domain =
      (entriesOf order (⟨primary.baseName, leading⟩ :: named)).lookup domain := by
    rw [lookedUp, List.flatMap_singleton, split]
  refine ⟨order, files, isOrder, filesParsed, ?_, ?_⟩
  · change provider.source? .default = _
    rw [defaultSource, own, Option.bind_some, inSections]
  · intro domain
    change provider.source? (.override domain) = _
    rw [overrideSource, own, inSections, lookup_entriesOf_cons]
    by_cases same : primary.baseName = domain
    · rw [if_pos (congrArg some same), if_pos same]
    · rw [if_neg fun equal => same (Option.some.inj equal), if_neg same,
        if_neg fun both => same both.2]

/-- **The servers in front of the first `domain` line are the default ones, and the other sections
are overrides, exactly if the name of the file is apart.** Otherwise a section that says this name
is taken for the leading one, or is left out of the overrides. -/
theorem keepsApart_iff_nameIsApart {tree : FileTree} {inputs : Inputs} {primary : Path}
    (given : inputs.primary = some primary)
    (built : (ServerProvider.build tree inputs).1 = .ok provider) :
    ∃ order files named, Order.ofValue? inputs.order = some order ∧
      (parseFiles tree inputs.order inputs.overrideFiles).1 = .ok files ∧
      sectionsAt tree primary = ⟨primary.baseName,
        leadingServers [] (significantLines (textAt tree primary))⟩ :: named ∧
      named.map Section.domain = (significantLines (textAt tree primary)).filterMap domainOf? ∧
      (KeepsApart order files (leadingServers [] (significantLines (textAt tree primary))) named
          provider ↔
        NameIsApart primary.baseName files
          (leadingServers [] (significantLines (textAt tree primary))) named) := by
  obtain ⟨named, split, domains⟩ :=
    exists_named [] primary.baseName (significantLines (textAt tree primary))
  obtain ⟨order, files, isOrder, filesParsed, sections⟩ := sections_of_build given built split
  refine ⟨order, files, named, isOrder, filesParsed, split, domains, ?_⟩
  exact ⟨nameIsApart_of_keepsApart sections, keepsApart_of_nameIsApart sections⟩

/-- The name `c` of the primary file of `crossedFiles` is apart. -/
theorem keepsApart_iff_nameIsApart_met :
    ∃ provider, (ServerProvider.build crossedFiles crossedInputs).1 = .ok provider ∧
      provider.default = some ⟨.single, [⟨.v4 ⟨10, 0, 0, 1⟩, 5⟩]⟩ := by
  obtain ⟨files, filesParsed, _⟩ := parseFiles_crossedFiles_first
  obtain ⟨primaries, primaryParsed, _⟩ := parseFiles_crossedFiles_second
  have given : crossedInputs.primary ≠ none ∨ crossedInputs.overrideFiles ≠ [] :=
    Or.inl (Option.some_ne_none _)
  obtain ⟨provider, built, _⟩ := exists_build given filesParsed primaryParsed
  obtain ⟨order, _, named, isOrder, _, _, domains, keeps⟩ := keepsApart_iff_nameIsApart rfl built
  have otherNames : (significantLines (textAt crossedFiles ⟨"", ["c"]⟩)).filterMap domainOf? =
      ["a.b"] := by
    simp only [textAt, bytes?_crossedFiles_second]
    decide +kernel
  have leadingOnes : leadingServers [] (significantLines (textAt crossedFiles ⟨"", ["c"]⟩)) =
      [⟨.v4 ⟨10, 0, 0, 1⟩, 5⟩] := by
    simp only [textAt, bytes?_crossedFiles_second]
    decide +kernel
  have apart : ∀ part ∈ named, part.servers ≠ [] → part.domain ≠ "c" := by
    intro part member _ same
    have inDomains : part.domain ∈ named.map Section.domain := List.mem_map_of_mem member
    rw [domains, otherNames, same] at inDomains
    revert inDomains
    decide
  have default := (keeps.2 (Or.inl apart)).default
  rw [leadingOnes] at default
  rw [show Order.ofValue? crossedInputs.order = some .failover from ofValue?_failover,
    Option.some.injEq] at isOrder
  rw [← isOrder] at default
  exact ⟨provider, built, default⟩

/-! ### A section that says the name of its file -/

def ownDomainBytes : List UInt8 := asciiBytes "domain resolv.conf\nnameserver 10.0.0.1\n"

/-- The file `resolv.conf`, in which a `domain` line says that name. -/
def ownDomainFiles : FileTree where
  entries := [(["resolv.conf"], .file ownDomainBytes .full)]

def ownDomainInputs : Inputs where
  primary := some ⟨"", ["resolv.conf"]⟩
  overrideFiles := []
  order := .text "failover"
  environmentOptions := none

theorem ofValue?_ownDomainInputs : Order.ofValue? ownDomainInputs.order = some .failover :=
  ofValue?_failover

theorem bytes?_ownDomainFiles :
    ownDomainFiles.bytes? ⟨"", ["resolv.conf"]⟩ = .ok (some ownDomainBytes) :=
  FileTree.bytes?_of_walk (by decide) (by decide) (by decide) rfl rfl rfl

theorem parseFiles_ownDomainFiles :
    (parseFiles ownDomainFiles ownDomainInputs.order [⟨"", ["resolv.conf"]⟩]).1.toOption.map
        DomainMap.entries =
      some [("resolv.conf", ⟨.single, [⟨.v4 ⟨10, 0, 0, 1⟩, dnsPort⟩]⟩)] := by
  rw [parseFiles, ofValue?_ownDomainInputs]
  simp only [Book.readFiles, Book.readFile_of_bytes bytes?_ownDomainFiles]
  decide +kernel

/-- No server stands in front of the first `domain` line, yet there is a default one; and the
section of `resolv.conf` is no override. -/
theorem default_of_ownDomainFiles :
    leadingServers [] (significantLines (textAt ownDomainFiles ⟨"", ["resolv.conf"]⟩)) = [] ∧
      sectionsAt ownDomainFiles ⟨"", ["resolv.conf"]⟩ =
        [⟨"resolv.conf", []⟩, ⟨"resolv.conf", [⟨.v4 ⟨10, 0, 0, 1⟩, dnsPort⟩]⟩] ∧
      ∃ provider, (ServerProvider.build ownDomainFiles ownDomainInputs).1 = .ok provider ∧
        provider.default = some ⟨.single, [⟨.v4 ⟨10, 0, 0, 1⟩, dnsPort⟩]⟩ ∧
        provider.overrides.domains = [] := by
  refine ⟨?_, ?_, ?_⟩
  · simp only [textAt, bytes?_ownDomainFiles]
    decide +kernel
  · simp only [sectionsAt, textAt, bytes?_ownDomainFiles]
    decide +kernel
  obtain ⟨provider, built, default, overrides⟩ :=
    exists_build_of_own rfl rfl ofValue?_ownDomainInputs parseFiles_ownDomainFiles
  refine ⟨provider, built, default, ?_⟩
  rw [overrides]
  rfl

end HostResolver.Provider
