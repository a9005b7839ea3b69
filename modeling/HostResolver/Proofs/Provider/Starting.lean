import HostResolver.Provider.Bootstrap
import HostResolver.Proofs.Provider.Sources
import HostResolver.Proofs.Servers.Passes

/-!
The start that never fails.

Owns: that a provider which knows no server is one without any source, and from it when the caller
is left with its own choice of servers, and that no answer of a provider is lost by that.

Does not own: what the start reports on the way.
-/

namespace HostResolver.Provider

open HostResolver.Address HostResolver.Config HostResolver.Document HostResolver.Files
  HostResolver.Servers

/-! ### Knowing a server -/

theorem exists_get?_of_not_isEmpty {map : DomainMap} (filled : ¬map.isEmpty = true) :
    ∃ domain source, map.get? domain = some source := by
  by_contra unfiled
  have absent : ∀ domain, map.entries.lookup domain = none := by
    intro domain
    cases found : map.entries.lookup domain with
    | none => rfl
    | some source => exact absurd ⟨domain, source, found⟩ unfiled
  have noEntries := forall_lookup_eq_none_iff.1 absent
  exact filled (List.isEmpty_iff.2 noEntries)

/-- A stream that is opened to find out gives a server, since its source has some. -/
theorem isSome_next_openChoice {source : Source} {order : Order} (nonempty : source.servers ≠ [])
    (ordered : source = .ofServers order source.servers) (session : Session)
    (shuffles : Nat → Shuffle) (choice : Choice) (shuffle : Shuffle) :
    (((session.openChoice shuffles choice source).1.next shuffle)).isSome = true := by
  have opened := Source.perm_openStream order source.servers (session.starts choice)
    (shuffles session.drawn)
  rw [← ordered] at opened
  obtain ⟨server, later, stepped, _⟩ :=
    Stream.exists_step (ne_nil_of_perm opened nonempty) shuffle
  rw [Session.openChoice, stepped]
  rfl

/-! What the query finds, and the session behind it. -/

namespace Session

variable {session : Session} {provider : ServerProvider} (shuffles : Nat → Shuffle)

theorem mayOverride_of_filled (filled : ¬provider.overrides.isEmpty = true) :
    session.mayOverride shuffles provider = (true, session) := by
  unfold mayOverride
  simp only [filled, Bool.not_false, if_true]

theorem mayOverride_of_none (empty : provider.overrides.isEmpty = true)
    (missing : provider.default = none) :
    session.mayOverride shuffles provider = (false, session) := by
  unfold mayOverride
  simp only [empty, Bool.not_true, Bool.false_eq_true, if_false, missing]

theorem mayOverride_of_some {source : Source} (empty : provider.overrides.isEmpty = true)
    (defaulted : provider.default = some source) :
    session.mayOverride shuffles provider =
      (((session.openChoice shuffles .default source).1.next
          (shuffles (session.openChoice shuffles .default source).2.drawn)).isSome,
        { (session.openChoice shuffles .default source).2 with
          drawn := (session.openChoice shuffles .default source).2.drawn + 1 }) := by
  unfold mayOverride
  simp only [empty, Bool.not_true, Bool.false_eq_true, if_false, defaulted]

end Session

/-- **No server is known exactly if there is no source.** -/
theorem mayOverride_eq_false_iff {provider : ServerProvider} {order : Order}
    (uses : UsesOrder provider order) (session : Session) (shuffles : Nat → Shuffle) :
    (session.mayOverride shuffles provider).1 = false ↔
      ∀ choice, provider.source? choice = none := by
  by_cases empty : provider.overrides.isEmpty = true
  · have noOverride (domain : String) : provider.source? (.override domain) = none :=
      get?_of_isEmpty empty domain
    cases defaulted : provider.default with
    | none =>
        rw [Session.mayOverride_of_none shuffles empty defaulted]
        refine ⟨fun _ choice => ?_, fun _ => rfl⟩
        cases choice with
        | default => exact defaulted
        | override domain => exact noOverride domain
    | some source =>
        have found : provider.source? .default = some source := defaulted
        obtain ⟨nonempty, ordered⟩ := uses .default source found
        rw [Session.mayOverride_of_some shuffles empty defaulted]
        simp only [isSome_next_openChoice nonempty ordered]
        refine ⟨fun impossible => absurd impossible (by simp), fun none => ?_⟩
        rw [none] at found
        contradiction
  · obtain ⟨domain, source, filed⟩ := exists_get?_of_not_isEmpty empty
    rw [Session.mayOverride_of_filled shuffles empty]
    refine ⟨fun impossible => absurd impossible (by simp), fun none => ?_⟩
    have absent : provider.overrides.get? domain = Option.none := none (.override domain)
    rw [filed] at absent
    contradiction

/-! ### Starts -/

/-- The servers that answer for a host after a start; none if the caller's own choice stands. -/
def Started.serversFor : Started → String → Option (List Endpoint)
  | .noop, _ => none
  | .active provider _, host => (provider.sourceFor? host).map Source.servers

/-- What comes of a start, by what comes of the building. -/
theorem startSilently_eq (tree : FileTree) (primary directory : Option String) (order : Value)
    (environmentOptions : Option String) (shuffles : Nat → Shuffle) :
    (startSilently tree primary directory order environmentOptions shuffles).1 =
      match (ServerProvider.ofPaths tree (primary.map Path.ofText) (directory.map Path.ofText) order
        environmentOptions).1 with
      | .error _ => .noop
      | .ok provider =>
        if (Session.start.mayOverride shuffles provider).1 then
          .active provider (Session.start.mayOverride shuffles provider).2
        else .noop := by
  unfold startSilently
  cases ServerProvider.ofPaths tree (primary.map Path.ofText) (directory.map Path.ofText) order
      environmentOptions with
  | mk outcome events =>
      cases outcome with
      | error error => rfl
      | ok provider =>
          simp only
          cases Session.start.mayOverride shuffles provider with
          | mk known session => cases known <;> rfl

/-- A provider built from paths is built from the files of the directory and the primary file. -/
theorem build_of_ofPaths {tree : FileTree} {primary directory : Option Path} {order : Value}
    {environmentOptions : Option String} {provider : ServerProvider}
    (built : (ServerProvider.ofPaths tree primary directory order environmentOptions).1 =
      .ok provider) :
    ∃ files, ServerProvider.overrideFiles tree directory = .ok files ∧
      (ServerProvider.build tree ⟨primary, files, order, environmentOptions⟩).1 = .ok provider := by
  unfold ServerProvider.ofPaths at built
  cases listed : ServerProvider.overrideFiles tree directory with
  | error error => simp [listed] at built
  | ok files =>
      rw [listed] at built
      exact ⟨files, rfl, built⟩

/-- A built provider is put aside exactly if it has no source at all. -/
theorem mayOverride_of_ofPaths {tree : FileTree} {primary directory : Option Path} {order : Value}
    {environmentOptions : Option String} {provider : ServerProvider}
    (built : (ServerProvider.ofPaths tree primary directory order environmentOptions).1 =
      .ok provider)
    (shuffles : Nat → Shuffle) :
    ((Session.start.mayOverride shuffles provider).1 = false ↔
        ∀ choice, provider.source? choice = none) ∧
      ((∀ choice, provider.source? choice = none) ↔
        ∃ files, ServerProvider.overrideFiles tree directory = .ok files ∧
          ∀ path ∈ files ++ primary.toList, ¬HasServerLine tree path) := by
  obtain ⟨files, listed, builtOfFiles⟩ := build_of_ofPaths built
  obtain ⟨_, _, filesParsed, _, _⟩ := maps_of_build builtOfFiles
  obtain ⟨known, _, named, _, _⟩ := parseFiles_eq_ok filesParsed
  refine ⟨mayOverride_eq_false_iff (usesOrder_of_build named builtOfFiles) _ shuffles, ?_⟩
  rw [forall_source?_eq_none_iff builtOfFiles]
  constructor
  · intro without
    exact ⟨files, listed, without⟩
  · rintro ⟨sameFiles, listedAgain, without⟩
    obtain rfl := Except.ok.inj (listed.symm.trans listedAgain)
    exact without

/-- **A start never fails and loses nothing.** Whatever it is given, it leaves the caller its own
choice of servers exactly if the provider cannot be built or no file that is read has a `nameserver`
line. Otherwise it gives that provider. In either case each host has the same servers as with the
provider, if that can be built; so the caller's own choice stands only where the provider has no
servers for any host. -/
theorem startSilently_keeps_answers (tree : FileTree) (primary directory : Option String)
    (order : Value) (environmentOptions : Option String) (shuffles : Nat → Shuffle) :
    let built := (ServerProvider.ofPaths tree (primary.map Path.ofText)
      (directory.map Path.ofText) order environmentOptions).1
    let started :=
      (startSilently tree primary directory order environmentOptions shuffles).1
    (started = .noop ↔
      (∃ error, built = .error error) ∨
        ∃ files, ServerProvider.overrideFiles tree (directory.map Path.ofText) = .ok files ∧
          ∀ path ∈ files ++ (primary.map Path.ofText).toList, ¬HasServerLine tree path) ∧
      (started ≠ .noop →
        ∃ provider session, started = .active provider session ∧ built = .ok provider) ∧
      (∀ provider, built = .ok provider → ∀ host,
        started.serversFor host = (provider.sourceFor? host).map Source.servers) ∧
      (started = .noop → ∀ provider, built = .ok provider → ∀ host,
        provider.sourceFor? host = none) := by
  intro built started
  have outcome : started =
      match built with
      | .error _ => .noop
      | .ok provider =>
        if (Session.start.mayOverride shuffles provider).1 then
          .active provider (Session.start.mayOverride shuffles provider).2
        else .noop :=
    startSilently_eq tree primary directory order environmentOptions shuffles
  cases result : built with
  | error error =>
      have noop : started = .noop := by
        rw [outcome, result]
      rw [noop]
      refine ⟨⟨fun _ => Or.inl ⟨error, rfl⟩, fun _ => rfl⟩, fun active => absurd rfl active, ?_, ?_⟩
      · intro provider impossible
        contradiction
      · intro _ provider impossible
        contradiction
  | ok provider =>
      rw [result] at outcome
      obtain ⟨known, without⟩ := mayOverride_of_ofPaths result shuffles
      cases asked : (Session.start.mayOverride shuffles provider).1 with
      | true =>
          have active : started =
              .active provider (Session.start.mayOverride shuffles provider).2 := by
            simpa [asked] using outcome
          have someSource := mt known.2 (by simp [asked])
          rw [active]
          refine ⟨⟨nofun, ?_⟩, fun _ => ⟨provider, _, rfl, rfl⟩, ?_, nofun⟩
          · rintro (⟨error, impossible⟩ | noLine)
            · contradiction
            · exact absurd (without.2 noLine) someSource
          · intro other same host
            obtain rfl := Except.ok.inj same
            rfl
      | false =>
          have noop : started = .noop := by simpa [asked] using outcome
          have noSource := known.1 asked
          have unanswered (host : String) : provider.sourceFor? host = none :=
            noSource (provider.choose host)
          rw [noop]
          refine ⟨⟨fun _ => Or.inr (without.1 noSource), fun _ => rfl⟩,
            fun active => absurd rfl active, ?_, ?_⟩
          · intro other same host
            obtain rfl := Except.ok.inj same
            rw [unanswered]
            rfl
          · intro _ other same host
            obtain rfl := Except.ok.inj same
            exact unanswered host

end HostResolver.Provider
