import HostResolver.Proofs.Provider.MostSpecific

/-!
Overrides that can answer for a host.

Owns: which domains a walk can end at, whatever host it begins with, and from it that an override is
served exactly if its domain has a point behind its first character of which the first one is not
its last character.

Does not own: for which hosts an override answers.

Every name that is looked up on a walk goes on behind a point, also the names with empty labels. So
a domain that does not go on is never looked up, and one that does is looked up first for itself.
-/

namespace HostResolver.Provider

open HostResolver.Config HostResolver.Servers

/-! ## Points behind the first character -/

/-- The first point of a domain behind its first character stands at a place. -/
structure IsFirstInnerPoint (domain : List Char) (place : Nat) : Prop where
  behindFirst : 0 < place
  point : domain[place]? = some '.'
  first : ∀ earlier, 0 < earlier → earlier < place → domain[earlier]? ≠ some '.'

/-- Whether a domain has a point behind its first character, and the first such point is not its
last character. -/
def IsServable (domain : List Char) : Prop :=
  ∃ place, IsFirstInnerPoint domain place ∧ place + 1 ≠ domain.length

/-- The point at which a name goes on is its first one behind its first character. -/
theorem isFirstInnerPoint_of_not_mem {first : Char} {before shorter : List Char}
    (noPoint : '.' ∉ before) :
    IsFirstInnerPoint (first :: (before ++ '.' :: shorter)) (before.length + 1) := by
  refine ⟨Nat.succ_pos _, ?_, ?_⟩
  · rw [List.getElem?_cons_succ, List.getElem?_append_right (Nat.le_refl _), Nat.sub_self]
    rfl
  · intro earlier behindFirst inside found
    obtain ⟨index, rfl⟩ := Nat.exists_eq_add_of_lt behindFirst
    rw [Nat.zero_add] at inside found
    have within : index < before.length := by omega
    rw [List.getElem?_cons_succ, List.getElem?_append_left within] at found
    exact noPoint (List.mem_of_getElem? found)

/-- A name with such a point is cut there. -/
theorem exists_cut_of_isFirstInnerPoint {domain : List Char} {place : Nat}
    (isFirst : IsFirstInnerPoint domain place) :
    ∃ first before shorter, domain = first :: (before ++ '.' :: shorter) ∧ '.' ∉ before ∧
      before.length + 1 = place := by
  obtain ⟨inRange, found⟩ := List.getElem?_eq_some_iff.1 isFirst.point
  cases domain with
  | nil => exact absurd inRange (Nat.not_lt_zero place)
  | cons first rest =>
      obtain ⟨index, rfl⟩ := Nat.exists_eq_add_of_lt isFirst.behindFirst
      rw [Nat.zero_add] at inRange
      have within : index < rest.length := by
        rw [List.length_cons] at inRange
        omega
      have point : rest[index] = '.' := by simpa using found
      have cut : rest = rest.take index ++ '.' :: rest.drop (index + 1) := by
        rw [← point, List.getElem_cons_drop, List.take_append_drop]
      have frontLength : (rest.take index).length = index :=
        List.length_take_of_le (Nat.le_of_lt within)
      refine ⟨first, rest.take index, rest.drop (index + 1), by rw [← cut], ?_, ?_⟩
      · intro member
        obtain ⟨earlier, earlierFound⟩ := List.getElem?_of_mem member
        have inFront : earlier < index := by
          obtain ⟨bound, _⟩ := List.getElem?_eq_some_iff.1 earlierFound
          omega
        rw [List.getElem?_take_of_lt inFront] at earlierFound
        have notPoint := isFirst.first (earlier + 1) (Nat.succ_pos earlier) (by omega)
        rw [List.getElem?_cons_succ] at notPoint
        exact notPoint earlierFound
      · rw [frontLength, Nat.zero_add]

/-- The domains that can be served are the names that go on. -/
theorem exists_goesOn_iff {domain : List Char} :
    (∃ shorter, GoesOn domain shorter) ↔ IsServable domain := by
  constructor
  · rintro ⟨shorter, notEmpty, first, before, rfl, noPoint⟩
    refine ⟨before.length + 1, isFirstInnerPoint_of_not_mem noPoint, ?_⟩
    have more := List.length_pos_iff.2 notEmpty
    simp only [List.length_cons, List.length_append]
    omega
  · rintro ⟨place, isFirst, notLast⟩
    obtain ⟨first, before, shorter, rfl, noPoint, rfl⟩ := exists_cut_of_isFirstInnerPoint isFirst
    refine ⟨shorter, ?_, first, before, rfl, noPoint⟩
    rintro rfl
    simp at notLast

/-- A single label is not servable, nor is one with a point in front of it or behind it. -/
theorem not_isServable_of_label {label domain : List Char} (noPoint : '.' ∉ label)
    (shape : domain ∈ [label, '.' :: label, label ++ ['.']]) : ¬IsServable domain := by
  rw [← exists_goesOn_iff]
  rintro ⟨shorter, notEmpty, first, before, rfl, _⟩
  simp only [List.mem_cons, List.not_mem_nil, or_false] at shape
  rcases shape with single | pointed | closed
  · rw [← single] at noPoint
    simp at noPoint
  · rw [List.cons.injEq] at pointed
    rw [← pointed.2] at noPoint
    simp at noPoint
  · -- What follows the first point ends in the last one, so the point before it is in the label.
    obtain ⟨front, last, rfl⟩ := List.eq_nil_or_concat shorter |>.resolve_left notEmpty
    have split : (first :: (before ++ '.' :: front)) ++ [last] = label ++ ['.'] := by
      rw [← closed]
      simp
    rw [← (List.append_inj' split rfl).1] at noPoint
    simp at noPoint

/-! ## Where walks end -/

/-- A walk ends at no domain but one that goes on. -/
theorem exists_goesOn_of_walksTo {overrides : DomainMap} {host : List Char} {choice : Choice}
    {domain : String} (walk : WalksTo overrides host choice) (taken : choice = .override domain) :
    ∃ shorter, GoesOn domain.toList shorter := by
  induction walk with
  | last ends => contradiction
  | @found host shorter more filed =>
      rw [Choice.override.injEq] at taken
      subst taken
      exact ⟨shorter, by rwa [String.toList_ofList]⟩
  | onwards more unfiled rest inductionHypothesis => exact inductionHypothesis taken

namespace ServerProvider

variable {provider : ServerProvider} {domain : String}

theorem isServable_of_choose {host : String} (taken : provider.choose host = .override domain) :
    IsServable domain.toList := by
  have walk := walksTo_choose provider host.toList
  rw [String.ofList_toList] at walk
  exact exists_goesOn_iff.1 (exists_goesOn_of_walksTo walk taken)

/-- A servable domain of the overrides answers for itself. -/
theorem choose_of_isServable (filed : domain ∈ provider.overrides.domains)
    (servable : IsServable domain.toList) : provider.choose domain = .override domain := by
  obtain ⟨shorter, more⟩ := exists_goesOn_iff.2 servable
  have chosen := choose_of_filed more (by rwa [String.ofList_toList])
  rwa [String.ofList_toList] at chosen

/-- Whether the source of a domain is the source of nothing else. -/
structure IsUnshared (provider : ServerProvider) (domain : String) : Prop where
  default : provider.default ≠ provider.overrides.get? domain
  others : ∀ other ∈ provider.overrides.domains, other ≠ domain →
    provider.overrides.get? other ≠ provider.overrides.get? domain

/-- An unshared source answers for a host only if its domain was chosen. -/
theorem choose_of_sourceFor? {host : String} (filed : domain ∈ provider.overrides.domains)
    (unshared : provider.IsUnshared domain)
    (served : provider.sourceFor? host = provider.overrides.get? domain) :
    provider.choose host = .override domain := by
  rw [sourceFor?] at served
  cases taken : provider.choose host with
  | default =>
      rw [taken] at served
      exact absurd served unshared.default
  | override name =>
      rw [taken] at served
      have sameSource : provider.overrides.get? name = provider.overrides.get? domain := served
      have nameFiled : name ∈ provider.overrides.domains := by
        rw [← DomainMap.isSome_get?_iff, sameSource, DomainMap.isSome_get?_iff]
        exact filed
      have sameName : name = domain := Decidable.byContradiction fun different =>
        unshared.others name nameFiled different sameSource
      rw [sameName]

/-- **Exactly which overrides can be reached.** Some host is answered by the override of a domain if
and only if the domain has a point behind its first character and the first such point is not its
last character, and then the domain itself is such a host. If the source of the override is shared
with no other one, the same holds of the source. So no host whatever is answered by the override of
a single label, with or without a point in front of it or behind it. -/
theorem override_served_iff (provider : ServerProvider) (domain : String)
    (filed : domain ∈ provider.overrides.domains) :
    ((∃ host, provider.choose host = .override domain) ↔ IsServable domain.toList) ∧
      (IsServable domain.toList → provider.choose domain = .override domain ∧
        provider.sourceFor? domain = provider.overrides.get? domain) ∧
      (provider.IsUnshared domain →
        ((∃ host, provider.sourceFor? host = provider.overrides.get? domain) ↔
          IsServable domain.toList)) ∧
      ∀ label, '.' ∉ label → domain.toList ∈ [label, '.' :: label, label ++ ['.']] →
        ∀ host, provider.choose host ≠ .override domain ∧
          (provider.IsUnshared domain →
            provider.sourceFor? host ≠ provider.overrides.get? domain) := by
  have servesItself : IsServable domain.toList → provider.choose domain = .override domain ∧
      provider.sourceFor? domain = provider.overrides.get? domain := by
    intro servable
    have chosen := choose_of_isServable filed servable
    exact ⟨chosen, by rw [sourceFor?, chosen]; rfl⟩
  refine ⟨⟨?_, ?_⟩, servesItself, ?_, ?_⟩
  · rintro ⟨host, taken⟩
    exact isServable_of_choose taken
  · intro servable
    exact ⟨domain, (servesItself servable).1⟩
  · intro unshared
    constructor
    · rintro ⟨host, served⟩
      exact isServable_of_choose (choose_of_sourceFor? filed unshared served)
    · intro servable
      exact ⟨domain, (servesItself servable).2⟩
  · intro label noPoint shape host
    have unservable := not_isServable_of_label noPoint shape
    refine ⟨fun taken => unservable (isServable_of_choose taken), ?_⟩
    intro unshared served
    exact unservable (isServable_of_choose (choose_of_sourceFor? filed unshared served))

/-- Of two overrides `b.c` can be reached, and the single label `c` cannot. -/
theorem override_served_iff_met :
    nestedOverrides.choose "b.c" = .override "b.c" ∧
      ∀ host, nestedOverrides.choose host ≠ .override "c" ∧
        nestedOverrides.sourceFor? host ≠ nestedOverrides.overrides.get? "c" := by
  constructor
  · have servable : IsServable "b.c".toList :=
      ⟨1, ⟨by decide, by decide, by intro earlier; omega⟩, by decide⟩
    exact ((override_served_iff nestedOverrides "b.c" (by decide +kernel)).2.1 servable).1
  · intro host
    have unshared : nestedOverrides.IsUnshared "c" := ⟨by decide +kernel, by decide +kernel⟩
    obtain ⟨unchosen, unserved⟩ :=
      (override_served_iff nestedOverrides "c" (by decide +kernel)).2.2.2
        "c".toList (by decide) (by decide) host
    exact ⟨unchosen, unserved unshared⟩

end ServerProvider

end HostResolver.Provider
