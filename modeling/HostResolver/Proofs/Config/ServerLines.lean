import HostResolver.Proofs.Config.Parsing

/-!
What a parsed map holds in terms of `nameserver` lines.

Owns: that an accepted line has a server exactly if it is a `nameserver` line, that the sections of
accepted lines are all empty exactly if there is no such line, and from these that a parsed map
holds nothing exactly if no file has one. Every source in the map has servers and the order that was
asked for.

Does not own: in which section a server stands.
-/

namespace HostResolver.Config

open HostResolver.Address HostResolver.Document HostResolver.Files HostResolver.Servers
  HostResolver.Text

variable {order : Order}

/-! ### Lines with a server -/

theorem label?_of_domainOf? {line : List Char} {domain : String}
    (named : domainOf? line = some domain) : label? line = some "domain" := by
  by_cases labelled : label? line = some "domain"
  · exact labelled
  · rw [domainOf?_eq_none labelled] at named
    contradiction

/-- An accepted line has a server exactly if it is a `nameserver` line. -/
theorem serverOf?_eq_none_iff {line : List Char} (accepted : IsAccepted line) (inUse : Port) :
    serverOf? inUse line = none ↔ label? line ≠ some "nameserver" := by
  constructor
  · intro without labelled
    obtain ⟨value, written, argument, valueRead⟩ := accepted.nameserver labelled
    simp [serverOf?, argument, valueRead, Except.toOption] at without
  · intro different
    exact serverOf?_eq_none different inUse

/-! ### Sections -/

theorem sectionsBehind_ne_nil (earlier : List (List Char)) (name : String)
    (lines : List (List Char)) : sectionsBehind earlier name lines ≠ [] := by
  induction lines generalizing earlier name with
  | nil => simp [sectionsBehind_nil]
  | cons line rest inductionHypothesis =>
      cases named : domainOf? line with
      | some domain => simp [sectionsBehind_domain named]
      | none =>
          rw [sectionsBehind_other named]
          simpa using inductionHypothesis (earlier ++ [line]) name

theorem flatMap_servers_precede {parts : List Section} (nonempty : parts ≠ [])
    (servers : List Endpoint) :
    (parts.modifyHead (Section.precede servers)).flatMap Section.servers =
      servers ++ parts.flatMap Section.servers := by
  cases parts with
  | nil => exact absurd rfl nonempty
  | cons part others => simp [Section.precede]

/-- The sections of accepted lines have no servers exactly if there is no `nameserver` line. -/
theorem flatMap_servers_eq_nil_iff {lines : List (List Char)}
    (accepted : ∀ line ∈ lines, IsAccepted line) (earlier : List (List Char)) (name : String) :
    (sectionsBehind earlier name lines).flatMap Section.servers = [] ↔
      ∀ line ∈ lines, label? line ≠ some "nameserver" := by
  induction lines generalizing earlier name with
  | nil => simp [sectionsBehind_nil]
  | cons line rest inductionHypothesis =>
      obtain ⟨lineAccepted, restAccepted⟩ := List.forall_mem_cons.1 accepted
      rw [List.forall_mem_cons]
      cases named : domainOf? line with
      | some domain =>
          have notServer : label? line ≠ some "nameserver" := by
            rw [label?_of_domainOf? named]
            simp
          rw [sectionsBehind_domain named, List.flatMap_cons, List.nil_append,
            inductionHypothesis restAccepted]
          exact ⟨fun others => ⟨notServer, others⟩, fun both => both.2⟩
      | none =>
          have nonempty := sectionsBehind_ne_nil (earlier ++ [line]) name rest
          rw [sectionsBehind_other named, flatMap_servers_precede nonempty,
            List.append_eq_nil_iff, inductionHypothesis restAccepted, Option.toList_eq_nil_iff,
            serverOf?_eq_none_iff lineAccepted]

/-! ### Entries -/

theorem entriesOf_eq_nil_iff {parts : List Section} :
    entriesOf order parts = [] ↔ parts.flatMap Section.servers = [] := by
  rw [entriesOf, List.map_eq_nil_iff, List.filter_eq_nil_iff, List.flatMap_eq_nil_iff]
  simp

theorem forall_lookup_eq_none_iff {α : Type} {entries : List (String × α)} :
    (∀ domain, entries.lookup domain = none) ↔ entries = [] := by
  constructor
  · intro absent
    cases entries with
    | nil => rfl
    | cons entry rest =>
        have found := absent entry.1
        simp at found
  · rintro rfl domain
    rfl

/-- Each entry that is found is that of a section with servers. -/
theorem servers_of_lookup {parts : List Section} {domain : String} {source : Source}
    (found : (entriesOf order parts).lookup domain = some source) :
    ∃ servers, servers ≠ [] ∧ source = .ofServers order servers := by
  obtain ⟨before, after, split, _⟩ := List.lookup_eq_some_iff.1 found
  have member : (domain, source) ∈ entriesOf order parts := by
    rw [split]
    simp
  rw [entriesOf, List.mem_map] at member
  obtain ⟨part, kept, entry⟩ := member
  obtain ⟨_, nonempty⟩ := List.mem_filter.1 kept
  refine ⟨part.servers, by simpa using nonempty, ?_⟩
  exact (congrArg Prod.snd entry).symm

/-! ### Parsed maps -/

/-- Whether the file at a path has a `nameserver` line. -/
def HasServerLine (tree : FileTree) (path : Path) : Prop :=
  ∃ line ∈ significantLines (textAt tree path), label? line = some "nameserver"

theorem get?_of_parseFiles {tree : FileTree} {given : Value} {paths : List Path} {map : DomainMap}
    (parsed : (parseFiles tree given paths).1 = .ok map) :
    ∃ order, Order.ofValue? given = some order ∧
      (∀ domain, map.get? domain =
        (entriesOf order (paths.flatMap (sectionsAt tree))).lookup domain) ∧
      ∀ path ∈ paths, ∀ line ∈ significantLines (textAt tree path), IsAccepted line := by
  obtain ⟨order, later, named, filesRead, rfl⟩ := parseFiles_eq_ok parsed
  obtain ⟨filed, accepted⟩ := map_of_readFiles filesRead
  refine ⟨order, named, ?_, accepted⟩
  intro domain
  rw [filed, DomainMap.get?_insertAll]
  rfl

/-- A parsed source has servers, and is in the order that was asked for. -/
theorem servers_of_get? {tree : FileTree} {given : Value} {paths : List Path} {map : DomainMap}
    {domain : String} {source : Source} (named : Order.ofValue? given = some order)
    (parsed : (parseFiles tree given paths).1 = .ok map)
    (found : map.get? domain = some source) :
    ∃ servers, servers ≠ [] ∧ source = .ofServers order servers := by
  obtain ⟨sameOrder, namedAgain, lookedUp, _⟩ := get?_of_parseFiles parsed
  obtain rfl := Option.some.inj (named.symm.trans namedAgain)
  rw [lookedUp] at found
  exact servers_of_lookup found

/-- **A parsed map is empty exactly if no file has a `nameserver` line.** -/
theorem forall_get?_eq_none_iff {tree : FileTree} {given : Value} {paths : List Path}
    {map : DomainMap} (parsed : (parseFiles tree given paths).1 = .ok map) :
    (∀ domain, map.get? domain = none) ↔ ∀ path ∈ paths, ¬HasServerLine tree path := by
  obtain ⟨order, _, lookedUp, accepted⟩ := get?_of_parseFiles parsed
  simp only [lookedUp]
  rw [forall_lookup_eq_none_iff, entriesOf_eq_nil_iff, List.flatMap_assoc,
    List.flatMap_eq_nil_iff]
  apply forall₂_congr
  intro path member
  have withoutServers := flatMap_servers_eq_nil_iff (accepted path member) [] path.baseName
  rw [sectionsAt, sectionsOf, withoutServers]
  simp only [HasServerLine, not_exists, not_and, ne_eq]

end HostResolver.Config
