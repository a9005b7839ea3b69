import HostResolver.Provider.Lookup
import HostResolver.Proofs.Config.Filing
import HostResolver.Proofs.Text.Fields

/-!
The walk from a host to the source that answers for it.

Owns: the turns of the walk, that the walk of every host comes to its end at the choice for the
host, and that a source of the overrides stands under the host itself or under an end of it behind a
point; from these, that an override has a say for the names under its domain only.

Does not own: which of several overrides answers.

A host is any text here: it may begin or end with a point, and points may follow each other. Only
one fact about it is carried along the walk, namely that each name on it is an end of the host
behind a point.
-/

namespace HostResolver.Provider

open HostResolver.Config HostResolver.Servers HostResolver.Text

/-! ## Turns -/

/-- A host goes on to what stands behind the first point that is not its first character, unless
nothing does. -/
def GoesOn (host shorter : List Char) : Prop :=
  shorter ≠ [] ∧ ∃ first before, host = first :: (before ++ '.' :: shorter) ∧ '.' ∉ before

/-- The walk from a host to a choice: a host that does not go on takes the default, one that is a
domain of the overrides takes it, and any other one takes what the host behind its point takes. -/
inductive WalksTo (overrides : DomainMap) : List Char → Choice → Prop where
  | last {host : List Char} (ends : ∀ shorter, ¬GoesOn host shorter) :
      WalksTo overrides host .default
  | found {host shorter : List Char} (more : GoesOn host shorter)
      (filed : String.ofList host ∈ overrides.domains) :
      WalksTo overrides host (.override (String.ofList host))
  | onwards {host shorter : List Char} {choice : Choice} (more : GoesOn host shorter)
      (unfiled : String.ofList host ∉ overrides.domains)
      (rest : WalksTo overrides shorter choice) : WalksTo overrides host choice

theorem length_lt_of_goesOn {host shorter : List Char} (more : GoesOn host shorter) :
    shorter.length < host.length := by
  obtain ⟨_, first, before, rfl, _⟩ := more
  simp only [List.length_cons, List.length_append]
  omega

/-- A host that goes on is looked up before the names of what stands behind its point. -/
theorem candidates_of_goesOn {host shorter : List Char} (more : GoesOn host shorter) :
    candidates host = host :: candidates shorter := by
  obtain ⟨notEmpty, first, before, rfl, noPoint⟩ := more
  have cut : cutAtFirst? '.' (before ++ '.' :: shorter) = some (before, shorter) :=
    cutAtFirst?_eq_some_iff.2 ⟨rfl, noPoint⟩
  rw [candidates]
  split
  · next found => simp [cut] at found
  · next front behind found =>
      rw [cut, Option.some.injEq, Prod.mk.injEq] at found
      obtain ⟨rfl, rfl⟩ := found
      rw [if_neg (by simpa using notEmpty)]

/-- A host that does not go on is not looked up. -/
theorem candidates_of_ends {host : List Char} (ends : ∀ shorter, ¬GoesOn host shorter) :
    candidates host = [] := by
  cases host with
  | nil => rw [candidates]
  | cons first rest =>
      rw [candidates]
      split
      · rfl
      · next before shorter found =>
          obtain ⟨rfl, noPoint⟩ := cutAtFirst?_eq_some_iff.1 found
          cases shorter with
          | nil => rfl
          | cons next behind =>
              have more : GoesOn (first :: (before ++ '.' :: next :: behind)) (next :: behind) :=
                ⟨List.cons_ne_nil next behind, first, before, rfl, noPoint⟩
              exact absurd more (ends (next :: behind))

namespace ServerProvider

variable {provider : ServerProvider}

/-! ## The choice -/

theorem choose_of_ends {host : List Char} (ends : ∀ shorter, ¬GoesOn host shorter) :
    provider.choose (String.ofList host) = .default := by
  rw [choose, String.toList_ofList, candidates_of_ends ends]
  rfl

theorem choose_of_filed {host shorter : List Char} (more : GoesOn host shorter)
    (filed : String.ofList host ∈ provider.overrides.domains) :
    provider.choose (String.ofList host) = .override (String.ofList host) := by
  have found := DomainMap.isSome_get?_iff.2 filed
  rw [choose, String.toList_ofList, candidates_of_goesOn more, List.map_cons, List.find?_cons]
  simp only [found]

theorem choose_of_unfiled {host shorter : List Char} (more : GoesOn host shorter)
    (unfiled : String.ofList host ∉ provider.overrides.domains) :
    provider.choose (String.ofList host) = provider.choose (String.ofList shorter) := by
  have notFound : (provider.overrides.get? (String.ofList host)).isSome = false := by
    rw [← Bool.not_eq_true, DomainMap.isSome_get?_iff]
    exact unfiled
  rw [choose, choose, String.toList_ofList, String.toList_ofList, candidates_of_goesOn more,
    List.map_cons, List.find?_cons]
  simp only [notFound]

/-- The walk of every host comes to its end, at the choice for the host. -/
theorem walksTo_choose (provider : ServerProvider) (host : List Char) :
    WalksTo provider.overrides host (provider.choose (String.ofList host)) := by
  by_cases goesOn : ∃ shorter, GoesOn host shorter
  · obtain ⟨shorter, more⟩ := goesOn
    have shrinks := length_lt_of_goesOn more
    by_cases filed : String.ofList host ∈ provider.overrides.domains
    · rw [choose_of_filed more filed]
      exact .found more filed
    · rw [choose_of_unfiled more filed]
      exact .onwards more filed (walksTo_choose provider shorter)
  · have ends := not_exists.1 goesOn
    rw [choose_of_ends ends]
    exact .last ends
termination_by host.length

/-- There is no other end of the walk. -/
theorem eq_choose_of_walksTo {host : List Char} {choice : Choice}
    (walk : WalksTo provider.overrides host choice) :
    provider.choose (String.ofList host) = choice := by
  induction walk with
  | last ends => exact choose_of_ends ends
  | found more filed => exact choose_of_filed more filed
  | onwards more unfiled _ inductionHypothesis =>
      rw [choose_of_unfiled more unfiled]
      exact inductionHypothesis

end ServerProvider

/-! ## Names under a domain -/

/-- Whether a host stands under a domain: it is the domain, or ends in it behind a point. -/
def IsUnder (host domain : List Char) : Prop := host = domain ∨ '.' :: domain <:+ host

instance (host domain : List Char) : Decidable (IsUnder host domain) :=
  inferInstanceAs (Decidable (host = domain ∨ '.' :: domain <:+ host))

/-- Whatever the shorter name of a turn is under, the host is under. -/
theorem isUnder_of_goesOn {host shorter domain : List Char} (more : GoesOn host shorter)
    (under : IsUnder shorter domain) : IsUnder host domain := by
  obtain ⟨_, first, before, rfl, _⟩ := more
  rcases under with rfl | behind
  · exact Or.inr ⟨first :: before, rfl⟩
  · refine Or.inr (behind.trans ⟨first :: (before ++ ['.']), ?_⟩)
    simp

/-- A domain at which a walk ends is filed, and the host stands under it. -/
theorem isUnder_of_walksTo {overrides : DomainMap} {host : List Char} {choice : Choice}
    {domain : String} (walk : WalksTo overrides host choice) (taken : choice = .override domain) :
    domain ∈ overrides.domains ∧ IsUnder host domain.toList := by
  induction walk with
  | last ends => contradiction
  | found more filed =>
      rw [Choice.override.injEq] at taken
      subst taken
      exact ⟨filed, Or.inl String.toList_ofList.symm⟩
  | onwards more unfiled rest inductionHypothesis =>
      obtain ⟨filed, under⟩ := inductionHypothesis taken
      exact ⟨filed, isUnder_of_goesOn more under⟩

/-- A walk does not see the entry of a domain that its host is not under. -/
theorem walksTo_of_agree {left right : DomainMap} {host : List Char} {choice : Choice}
    {domain : String} (apart : ¬IsUnder host domain.toList)
    (agree : ∀ name, name ≠ domain → right.get? name = left.get? name)
    (walk : WalksTo left host choice) : WalksTo right host choice := by
  have filed_iff {host : List Char} (apart : ¬IsUnder host domain.toList) :
      String.ofList host ∈ right.domains ↔ String.ofList host ∈ left.domains := by
    have different : String.ofList host ≠ domain := by
      rintro rfl
      exact apart (Or.inl String.toList_ofList.symm)
    rw [← DomainMap.isSome_get?_iff, ← DomainMap.isSome_get?_iff, agree _ different]
  induction walk with
  | last ends => exact .last ends
  | found more filed => exact .found more ((filed_iff apart).2 filed)
  | onwards more unfiled rest inductionHypothesis =>
      have shorterApart := fun under => apart (isUnder_of_goesOn more under)
      exact .onwards more (fun filed => unfiled ((filed_iff apart).1 filed))
        (inductionHypothesis shorterApart)

namespace ServerProvider

/-- One override, for the names under `example.com`. -/
def exampleOverride : ServerProvider where
  default := none
  overrides :=
    DomainMap.empty.insertAll
      [("example.com", .ofServers .failover [⟨.v4 ⟨10, 0, 0, 1⟩, Address.dnsPort⟩])]
  options := {}
  searchDomains := []

/-- The same without its entry. -/
def exampleErased : ServerProvider :=
  { exampleOverride with overrides := exampleOverride.overrides.erase "example.com" }

/-- **An override has a say for the names under its domain only.** The walk of every host comes to
its end, at the choice for the host and nowhere else. If a source of the overrides answers, its
domain is the host or an end of it behind a point. So whatever is done to the entry of a domain that
the host is not under, the same source answers for the host. -/
theorem sourceFor?_confined (provider : ServerProvider) (host : String) :
    (∀ choice, WalksTo provider.overrides host.toList choice ↔ provider.choose host = choice) ∧
      (∀ domain, provider.choose host = .override domain →
        domain ∈ provider.overrides.domains ∧ IsUnder host.toList domain.toList ∧
          provider.sourceFor? host = provider.overrides.get? domain) ∧
      (provider.choose host = .default → provider.sourceFor? host = provider.default) ∧
      ∀ (domain : String) (other : ServerProvider), ¬IsUnder host.toList domain.toList →
        other.default = provider.default →
        (∀ name, name ≠ domain → other.overrides.get? name = provider.overrides.get? name) →
        other.choose host = provider.choose host ∧
          other.sourceFor? host = provider.sourceFor? host := by
  have walk := walksTo_choose provider host.toList
  rw [String.ofList_toList] at walk
  refine ⟨?_, ?_, ?_, ?_⟩
  · intro choice
    constructor
    · intro reached
      have same := eq_choose_of_walksTo reached
      rwa [String.ofList_toList] at same
    · rintro rfl
      exact walk
  · intro domain taken
    obtain ⟨filed, under⟩ := isUnder_of_walksTo walk taken
    exact ⟨filed, under, by rw [sourceFor?, taken]; rfl⟩
  · intro taken
    rw [sourceFor?, taken]
    rfl
  · intro domain other apart sameDefault agree
    have sameChoice : other.choose host = provider.choose host := by
      have reached := eq_choose_of_walksTo (walksTo_of_agree apart agree walk)
      rwa [String.ofList_toList] at reached
    refine ⟨sameChoice, ?_⟩
    rw [sourceFor?, sourceFor?, sameChoice]
    cases taken : provider.choose host with
    | default => exact sameDefault
    | override name =>
        have under := (isUnder_of_walksTo walk taken).2
        have different : name ≠ domain := by
          rintro rfl
          exact apart under
        exact agree name different

/-- The entry for `example.com` has a say for `.www.example.com`, and none for `evilexample.com`,
which does not change when the entry is taken away. -/
theorem sourceFor?_confined_met :
    exampleOverride.choose ".www.example.com" = .override "example.com" ∧
      IsUnder ".www.example.com".toList "example.com".toList ∧
      ¬IsUnder "evilexample.com".toList "example.com".toList ∧
      exampleErased.sourceFor? "evilexample.com" =
        exampleOverride.sourceFor? "evilexample.com" := by
  obtain ⟨reached, confined, _, _⟩ := sourceFor?_confined exampleOverride ".www.example.com"
  have more : GoesOn ".www.example.com".toList "example.com".toList :=
    ⟨by decide, '.', "www".toList, by decide, by decide⟩
  have still : GoesOn "example.com".toList "com".toList :=
    ⟨by decide, 'e', "xample".toList, by decide, by decide⟩
  have walk : WalksTo exampleOverride.overrides ".www.example.com".toList
      (.override "example.com") :=
    .onwards more (by decide +kernel) (.found still (by decide +kernel))
  have taken := (reached _).1 walk
  have apart : ¬IsUnder "evilexample.com".toList "example.com".toList := by decide
  obtain ⟨_, _, _, unseen⟩ := sourceFor?_confined exampleOverride "evilexample.com"
  refine ⟨taken, (confined _ taken).2.1, apart, (unseen "example.com" exampleErased apart rfl ?_).2⟩
  intro name different
  rw [exampleErased, DomainMap.get?_erase, if_neg different]

end ServerProvider

end HostResolver.Provider
