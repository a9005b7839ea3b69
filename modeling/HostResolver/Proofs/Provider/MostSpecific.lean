import HostResolver.Proofs.Provider.Walk

/-!
The look-up of a host in terms of its labels.

Owns: the names that are looked up for a host of well-formed labels, and from them that the source
which answers is the one filed under the longest end of the host with two labels or more, or else
the default.

Does not own: hosts with empty labels.
-/

namespace HostResolver.Provider

open HostResolver.Config HostResolver.Servers HostResolver.Text

/-! ## Labels -/

/-- A label of a host: not empty, and without a point. -/
structure IsLabel (label : String) : Prop where
  notEmpty : label ≠ ""
  noPoint : '.' ∉ label.toList

theorem isLabel_iff {label : String} : label ≠ "" ∧ '.' ∉ label.toList ↔ IsLabel label :=
  ⟨fun both => ⟨both.1, both.2⟩, fun wellFormed => ⟨wellFormed.notEmpty, wellFormed.noPoint⟩⟩

instance (label : String) : Decidable (IsLabel label) := decidable_of_iff _ isLabel_iff

/-- The name that labels make up. -/
def joined (labels : List String) : String := ".".intercalate labels

theorem toList_joined_cons_cons (first second : String) (rest : List String) :
    (joined (first :: second :: rest)).toList =
      first.toList ++ '.' :: (joined (second :: rest)).toList := by
  rw [joined, String.intercalate_cons_cons, String.toList_append, String.toList_append,
    List.append_assoc]
  rfl

theorem IsLabel.toList_ne_nil {label : String} (wellFormed : IsLabel label) :
    label.toList ≠ [] := by
  intro empty
  exact wellFormed.notEmpty (String.toList_eq_nil_iff.1 empty)

/-- A name of labels is not empty. -/
theorem toList_joined_ne_nil {first : String} {rest : List String} (wellFormed : IsLabel first) :
    (joined (first :: rest)).toList ≠ [] := by
  cases rest with
  | nil =>
      rw [joined, String.intercalate_singleton]
      exact wellFormed.toList_ne_nil
  | cons second others =>
      rw [toList_joined_cons_cons]
      simp

/-- The ends of a list of labels that have two labels or more, the longest first. -/
def ends : List String → List (List String)
  | first :: second :: rest => (first :: second :: rest) :: ends (second :: rest)
  | _ => []

theorem mem_ends_iff {labels suffix : List String} :
    suffix ∈ ends labels ↔ suffix <:+ labels ∧ 2 ≤ suffix.length := by
  induction labels with
  | nil =>
      rw [ends, List.suffix_nil]
      constructor
      · simp
      · rintro ⟨rfl, long⟩
        simp at long
      · simp
  | cons first rest inductionHypothesis =>
      cases rest with
      | nil =>
          constructor
          · simp [ends]
          · rintro ⟨contained, long⟩
            have short := contained.length_le
            simp only [List.length_singleton] at short
            omega
      | cons second others =>
          rw [ends, List.mem_cons, inductionHypothesis]
          constructor
          · rintro (rfl | ⟨contained, long⟩)
            · exact ⟨List.suffix_rfl, by simp⟩
            · exact ⟨List.suffix_cons_iff.2 (Or.inr contained), long⟩
          · rintro ⟨contained, long⟩
            rcases List.suffix_cons_iff.1 contained with whole | shorter
            · exact Or.inl whole
            · exact Or.inr ⟨shorter, long⟩

/-! ## Names that are looked up -/

/-- A single label is not looked up. -/
theorem candidates_of_not_mem {label : List Char} (noPoint : '.' ∉ label) :
    candidates label = [] := by
  apply candidates_of_ends
  rintro shorter ⟨_, first, before, rfl, _⟩
  simp at noPoint

/-- A name of more than one label is looked up, and then what is left without its first label. -/
theorem candidates_append_cons {label shorter : List Char} (notEmpty : label ≠ [])
    (noPoint : '.' ∉ label) (more : shorter ≠ []) :
    candidates (label ++ '.' :: shorter) = (label ++ '.' :: shorter) :: candidates shorter := by
  cases label with
  | nil => exact absurd rfl notEmpty
  | cons first rest =>
      have noPointBehind : '.' ∉ rest := fun member => noPoint (List.mem_cons_of_mem first member)
      exact candidates_of_goesOn ⟨more, first, rest, rfl, noPointBehind⟩

/-- The names that are looked up for a host are its ends of two labels or more. -/
theorem candidates_joined {labels : List String} (wellFormed : ∀ label ∈ labels, IsLabel label) :
    (candidates (joined labels).toList).map String.ofList = (ends labels).map joined := by
  induction labels with
  | nil =>
      rw [joined, String.intercalate_nil, String.toList_empty, candidates]
      rfl
  | cons first rest inductionHypothesis =>
      obtain ⟨firstLabel, restLabels⟩ := List.forall_mem_cons.1 wellFormed
      cases rest with
      | nil =>
          rw [joined, String.intercalate_singleton, candidates_of_not_mem firstLabel.noPoint]
          rfl
      | cons second others =>
          have secondLabel := restLabels second List.mem_cons_self
          rw [ends, List.map_cons, ← inductionHypothesis restLabels, toList_joined_cons_cons,
            candidates_append_cons firstLabel.toList_ne_nil firstLabel.noPoint
              (toList_joined_ne_nil secondLabel),
            List.map_cons, ← toList_joined_cons_cons, String.ofList_toList]

/-! ## The longest end -/

/-- The longest end of labels, of two labels or more, under which a map has a source. -/
structure IsLongestFiled (map : DomainMap) (labels suffix : List String) : Prop where
  isEnd : suffix <:+ labels
  twoLabels : 2 ≤ suffix.length
  filed : joined suffix ∈ map.domains
  longest : ∀ other, other <:+ labels → 2 ≤ other.length → joined other ∈ map.domains →
    other.length ≤ suffix.length

/-- The first end with a property is the longest one. -/
theorem find?_ends {accepts : List String → Bool} {labels suffix : List String}
    (member : suffix ∈ ends labels) (accepted : accepts suffix = true)
    (longest : ∀ other ∈ ends labels, accepts other = true → other.length ≤ suffix.length) :
    (ends labels).find? accepts = some suffix := by
  induction labels with
  | nil => simp [ends] at member
  | cons first rest inductionHypothesis =>
      cases rest with
      | nil => simp [ends] at member
      | cons second others =>
          rw [ends] at member longest ⊢
          obtain ⟨wholeShorter, othersShorter⟩ := List.forall_mem_cons.1 longest
          rcases List.mem_cons.1 member with rfl | later
          · rw [List.find?_cons_of_pos accepted]
          · have shorter := (mem_ends_iff.1 later).1.length_le
            have notAccepted : ¬accepts (first :: second :: others) = true := by
              intro whole
              have bound := wholeShorter whole
              simp only [List.length_cons] at bound shorter
              omega
            rw [List.find?_cons_of_neg notAccepted]
            exact inductionHypothesis later othersShorter

/-- A map has a source under an end of labels, or it has none; if it has one, there is a longest. -/
theorem exists_longestFiled (map : DomainMap) (labels : List String) :
    (∃ suffix, IsLongestFiled map labels suffix) ∨
      ∀ suffix, suffix <:+ labels → 2 ≤ suffix.length → joined suffix ∉ map.domains := by
  induction labels with
  | nil =>
      refine Or.inr fun suffix isEnd twoLabels => ?_
      rw [List.suffix_nil] at isEnd
      simp [isEnd] at twoLabels
  | cons first rest inductionHypothesis =>
      by_cases whole : 2 ≤ (first :: rest).length ∧ joined (first :: rest) ∈ map.domains
      · refine Or.inl ⟨first :: rest, List.suffix_rfl, whole.1, whole.2, ?_⟩
        intro other isEnd _ _
        exact isEnd.length_le
      · rcases inductionHypothesis with ⟨suffix, isLongest⟩ | none
        · refine Or.inl ⟨suffix, isLongest.isEnd.trans (List.suffix_cons first rest),
            isLongest.twoLabels, isLongest.filed, ?_⟩
          intro other isEnd twoLabels filed
          rcases List.suffix_cons_iff.1 isEnd with rfl | shorter
          · exact absurd ⟨twoLabels, filed⟩ whole
          · exact isLongest.longest other shorter twoLabels filed
        · refine Or.inr fun suffix isEnd twoLabels filed => ?_
          rcases List.suffix_cons_iff.1 isEnd with rfl | shorter
          · exact whole ⟨twoLabels, filed⟩
          · exact none suffix shorter twoLabels filed

/-- Whether a map has a source under the name of labels. -/
def isFiled (map : DomainMap) (labels : List String) : Bool := (map.get? (joined labels)).isSome

theorem isFiled_iff {map : DomainMap} {labels : List String} :
    isFiled map labels = true ↔ joined labels ∈ map.domains := by
  rw [isFiled, DomainMap.isSome_get?_iff]

namespace ServerProvider

/-- The choice for a host of well-formed labels, by its ends. -/
theorem choose_joined (provider : ServerProvider) {labels : List String}
    (wellFormed : ∀ label ∈ labels, IsLabel label) :
    provider.choose (joined labels) =
      match (ends labels).find? (isFiled provider.overrides) with
      | some suffix => .override (joined suffix)
      | none => .default := by
  have samePredicate : (fun name => (provider.overrides.get? name).isSome) ∘ joined =
      isFiled provider.overrides := rfl
  rw [choose, candidates_joined wellFormed, List.find?_map, samePredicate]
  cases (ends labels).find? (isFiled provider.overrides) with
  | none => rfl
  | some suffix => rfl

/-- Overrides of which two apply to `x.a.b.c`, and one stands under a single label. -/
def nestedOverrides : ServerProvider where
  default := none
  overrides :=
    DomainMap.empty.insertAll
      [("b.c", .ofServers .failover [⟨.v4 ⟨10, 0, 0, 1⟩, Address.dnsPort⟩]),
        ("a.b.c", .ofServers .failover [⟨.v4 ⟨10, 0, 0, 2⟩, Address.dnsPort⟩]),
        ("c", .ofServers .failover [⟨.v4 ⟨10, 0, 0, 3⟩, Address.dnsPort⟩])]
  options := {}
  searchDomains := []

/-- **The most specific override answers.** For a host of well-formed labels, the source that
answers is the one filed under the longest end of two labels or more that has one, and the default
if none has one. -/
theorem sourceFor?_mostSpecific (provider : ServerProvider) (labels : List String)
    (wellFormed : ∀ label ∈ labels, IsLabel label) :
    (∀ suffix, IsLongestFiled provider.overrides labels suffix →
        provider.choose (joined labels) = .override (joined suffix) ∧
          provider.sourceFor? (joined labels) = provider.overrides.get? (joined suffix)) ∧
      ((∀ suffix, suffix <:+ labels → 2 ≤ suffix.length →
          joined suffix ∉ provider.overrides.domains) →
        provider.choose (joined labels) = .default ∧
          provider.sourceFor? (joined labels) = provider.default) ∧
      ((∃ suffix, IsLongestFiled provider.overrides labels suffix) ∨
        ∀ suffix, suffix <:+ labels → 2 ≤ suffix.length →
          joined suffix ∉ provider.overrides.domains) := by
  refine ⟨?_, ?_, exists_longestFiled provider.overrides labels⟩
  · intro suffix isLongest
    have isEnd := mem_ends_iff.2 ⟨isLongest.isEnd, isLongest.twoLabels⟩
    have found := find?_ends isEnd (isFiled_iff.2 isLongest.filed) (by
      intro other member filed
      obtain ⟨otherEnd, twoLabels⟩ := mem_ends_iff.1 member
      exact isLongest.longest other otherEnd twoLabels (isFiled_iff.1 filed))
    have chosen : provider.choose (joined labels) = .override (joined suffix) := by
      rw [choose_joined provider wellFormed, found]
    exact ⟨chosen, by rw [sourceFor?, chosen]; rfl⟩
  · intro unfiled
    have notFound : (ends labels).find? (isFiled provider.overrides) = none := by
      rw [List.find?_eq_none]
      intro suffix member filed
      obtain ⟨isEnd, twoLabels⟩ := mem_ends_iff.1 member
      exact unfiled suffix isEnd twoLabels (isFiled_iff.1 filed)
    have chosen : provider.choose (joined labels) = .default := by
      rw [choose_joined provider wellFormed, notFound]
    exact ⟨chosen, by rw [sourceFor?, chosen]; rfl⟩

theorem sourceFor?_mostSpecific_met :
    nestedOverrides.choose "x.a.b.c" = .override "a.b.c" ∧
      nestedOverrides.choose "c" = .default := by
  have longLabels : ∀ label ∈ ["x", "a", "b", "c"], IsLabel label := by decide
  have shortLabels : ∀ label ∈ ["c"], IsLabel label := by decide
  constructor
  · obtain ⟨overridden, _, _⟩ := sourceFor?_mostSpecific nestedOverrides _ longLabels
    have isLongest : IsLongestFiled nestedOverrides.overrides ["x", "a", "b", "c"]
        ["a", "b", "c"] := by
      refine ⟨List.suffix_cons _ _, by decide, by decide +kernel, ?_⟩
      intro other isEnd _ filed
      rcases List.suffix_cons_iff.1 isEnd with rfl | shorter
      · exact absurd filed (by decide +kernel)
      · exact shorter.length_le
    exact (overridden _ isLongest).1
  · obtain ⟨_, defaulted, _⟩ := sourceFor?_mostSpecific nestedOverrides _ shortLabels
    refine (defaulted ?_).1
    intro suffix isEnd twoLabels
    have bound := isEnd.length_le
    simp only [List.length_singleton] at bound
    omega

end ServerProvider

end HostResolver.Provider
