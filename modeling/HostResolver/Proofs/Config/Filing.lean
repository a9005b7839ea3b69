import HostResolver.Config.Section

/-!
Filing of sources under domains.

Owns: the entries that are left of a list when each domain keeps its first source only, and that
filing a list of entries in turn adds exactly these, behind what is filed already.

Does not own: which entries the sections of a file give.
-/

namespace HostResolver.Config

open HostResolver.Servers

/-! ## First entries -/

section FirstOfEach

variable {α : Type}

/-- The entries of a list without those whose key an earlier entry has. -/
def firstOfEach (entries : List (String × α)) : List (String × α) :=
  entries.eraseDupsBy fun later earlier => later.1 == earlier.1

theorem firstOfEach_cons (entry : String × α) (entries : List (String × α)) :
    firstOfEach (entry :: entries) =
      entry :: firstOfEach (entries.filter fun other => other.1 != entry.1) := by
  rw [firstOfEach, List.eraseDupsBy_cons, firstOfEach]
  congr 2
  apply List.filter_congr
  intro other _
  cases same : other.1 == entry.1 <;> simp [bne, same]

theorem lookup_filter (keep : String → Bool) (entries : List (String × α)) (key : String) :
    (entries.filter fun entry => keep entry.1).lookup key =
      if keep key then entries.lookup key else none := by
  induction entries with
  | nil => simp
  | cons entry rest inductionHypothesis =>
      obtain ⟨domain, value⟩ := entry
      by_cases same : key = domain
      · subst same
        by_cases kept : keep key
        · simp [kept]
        · simpa [kept] using inductionHypothesis
      · have different : (key == domain) = false := beq_eq_false_iff_ne.2 same
        by_cases kept : keep domain
        · simpa [kept, List.lookup_cons, different] using inductionHypothesis
        · simpa [kept, List.lookup_cons, different] using inductionHypothesis

/-- Looking up a key finds its first entry. -/
theorem lookup_firstOfEach (key : String) :
    ∀ entries : List (String × α), (firstOfEach entries).lookup key = entries.lookup key
  | [] => rfl
  | (domain, value) :: rest => by
      rw [firstOfEach_cons, List.lookup_cons, List.lookup_cons,
        lookup_firstOfEach key (rest.filter fun other => other.1 != domain),
        lookup_filter (fun other => other != domain)]
      by_cases same : key = domain <;> simp [same]
termination_by entries => entries.length
decreasing_by
  have := List.length_filter_le (fun other : String × α => other.1 != domain) rest
  simp only [List.length_cons]
  omega

/-- Dropping keys and keeping first entries can be done in either order. -/
theorem firstOfEach_filter (keep : String → Bool) :
    ∀ entries : List (String × α),
      firstOfEach (entries.filter fun entry => keep entry.1) =
        (firstOfEach entries).filter fun entry => keep entry.1
  | [] => rfl
  | entry :: rest => by
      rw [firstOfEach_cons]
      by_cases kept : keep entry.1
      · rw [List.filter_cons, List.filter_cons, if_pos kept, if_pos kept, firstOfEach_cons,
          ← firstOfEach_filter keep (rest.filter fun other => other.1 != entry.1),
          List.filter_filter, List.filter_filter]
        simp only [Bool.and_comm]
      · rw [List.filter_cons, List.filter_cons, if_neg kept, if_neg kept,
          ← firstOfEach_filter keep (rest.filter fun other => other.1 != entry.1),
          List.filter_filter]
        -- A kept key differs from one that is not kept.
        congr 1
        apply List.filter_congr
        intro other _
        by_cases same : other.1 = entry.1
        · simp [same, kept]
        · simp [same]
termination_by entries => entries.length
decreasing_by
  all_goals
    have := List.length_filter_le (fun other : String × α => other.1 != entry.1) rest
    simp only [List.length_cons]
    omega

theorem filter_ne_of_not_mem {entries : List (String × α)} {key : String}
    (absent : key ∉ entries.map Prod.fst) :
    entries.filter (fun other => other.1 != key) = entries := by
  rw [List.filter_eq_self]
  intro other member
  have different : other.1 ≠ key := by
    intro same
    exact absent (same ▸ List.mem_map_of_mem member)
  simpa using different

/-- Distinct keys are all kept. -/
theorem firstOfEach_of_nodup {entries : List (String × α)}
    (distinct : (entries.map Prod.fst).Nodup) : firstOfEach entries = entries := by
  induction entries with
  | nil => rfl
  | cons entry rest inductionHypothesis =>
      rw [List.map_cons, List.nodup_cons] at distinct
      rw [firstOfEach_cons, filter_ne_of_not_mem distinct.1, inductionHypothesis distinct.2]

/-- Distinct keys are the one that is looked up, if it is there, and the others. -/
theorem perm_lookup_filter {entries : List (String × α)} (key : String)
    (distinct : (entries.map Prod.fst).Nodup) :
    entries.Perm (((entries.lookup key).map fun value => (key, value)).toList ++
      entries.filter fun entry => entry.1 != key) := by
  induction entries with
  | nil => exact .nil
  | cons entry rest inductionHypothesis =>
      obtain ⟨domain, value⟩ := entry
      rw [List.map_cons, List.nodup_cons] at distinct
      by_cases same : domain = key
      · subst same
        have others := filter_ne_of_not_mem distinct.1
        simp [others]
      · have different : (key == domain) = false := beq_eq_false_iff_ne.2 (Ne.symm same)
        have found : List.lookup key ((domain, value) :: rest) = rest.lookup key := by
          rw [List.lookup_cons, different]
        have others : (((domain, value) :: rest).filter fun entry => entry.1 != key) =
            (domain, value) :: rest.filter fun entry => entry.1 != key :=
          List.filter_cons_of_pos (bne_iff_ne.2 same)
        rw [found, others]
        exact ((inductionHypothesis distinct.2).cons _).trans List.perm_middle.symm

end FirstOfEach

namespace DomainMap

/-! ## Maps -/

theorem ext {left right : DomainMap} (same : left.entries = right.entries) : left = right := by
  cases left
  cases right
  cases same
  rfl

theorem get?_eq_none_iff {map : DomainMap} {domain : String} :
    map.get? domain = none ↔ domain ∉ map.domains := by
  rw [get?, List.lookup_eq_none_iff, domains, List.mem_map]
  constructor
  · rintro absent ⟨entry, member, rfl⟩
    have different := absent entry member
    simp at different
  · intro absent entry member
    have different : domain ≠ entry.1 := fun same => absent ⟨entry, member, same.symm⟩
    simpa using different

theorem isSome_get?_iff {map : DomainMap} {domain : String} :
    (map.get? domain).isSome = true ↔ domain ∈ map.domains := by
  rw [← Decidable.not_iff_not, Bool.not_eq_true, Option.isSome_eq_false_iff,
    Option.isNone_iff_eq_none, get?_eq_none_iff]

theorem entries_insertIfAbsent (map : DomainMap) (domain : String) (source : Source) :
    (map.insertIfAbsent domain source).entries =
      if domain ∈ map.domains then map.entries else map.entries ++ [(domain, source)] := by
  rw [insertIfAbsent]
  by_cases present : domain ∈ map.domains
  · rw [dif_neg (not_not_intro present), if_pos present]
  · rw [dif_pos present, if_neg present]
    rfl

/-- Files entries one after the other, each unless its domain has a source already. -/
def insertAll (map : DomainMap) (entries : List (String × Source)) : DomainMap :=
  entries.foldl (fun map entry => map.insertIfAbsent entry.1 entry.2) map

/-- **Filing keeps what is filed and adds the first entry of each further domain.** -/
theorem entries_insertAll (map : DomainMap) (entries : List (String × Source)) :
    (map.insertAll entries).entries =
      map.entries ++ firstOfEach (entries.filter fun entry => decide (entry.1 ∉ map.domains)) := by
  induction entries generalizing map with
  | nil => exact (List.append_nil _).symm
  | cons entry rest inductionHypothesis =>
      rw [insertAll, List.foldl_cons, ← insertAll, inductionHypothesis, entries_insertIfAbsent]
      by_cases present : entry.1 ∈ map.domains
      · have same : map.insertIfAbsent entry.1 entry.2 = map := by
          apply ext
          rw [entries_insertIfAbsent, if_pos present]
        rw [if_pos present, same, List.filter_cons_of_neg (by simpa using present)]
      · have added : (map.insertIfAbsent entry.1 entry.2).domains = map.domains ++ [entry.1] := by
          rw [domains, entries_insertIfAbsent, if_neg present, List.map_append]
          rfl
        rw [if_neg present, added, List.filter_cons_of_pos (by simpa using present),
          firstOfEach_cons, List.filter_filter, List.append_assoc, List.singleton_append]
        congr 3
        apply List.filter_congr
        intro other _
        by_cases same : other.1 = entry.1 <;> simp [same]

theorem entries_empty_insertAll (entries : List (String × Source)) :
    (empty.insertAll entries).entries = firstOfEach entries := by
  rw [entries_insertAll, List.filter_eq_self.2 (by simp [empty, domains])]
  rfl

theorem firstOfEach_firstOfEach (entries : List (String × Source)) :
    firstOfEach (firstOfEach entries) = firstOfEach entries := by
  rw [← entries_empty_insertAll entries]
  exact firstOfEach_of_nodup (empty.insertAll entries).nodup

/-- Nothing is gained or lost if later entries of the same domain are left out beforehand. -/
theorem insertAll_entries_empty_insertAll (map : DomainMap) (entries : List (String × Source)) :
    map.insertAll (empty.insertAll entries).entries = map.insertAll entries := by
  apply ext
  rw [entries_empty_insertAll, entries_insertAll, entries_insertAll,
    firstOfEach_filter fun domain => decide (domain ∉ map.domains),
    firstOfEach_filter fun domain => decide (domain ∉ map.domains), firstOfEach_firstOfEach]

/-- Filing the entries of a map adds those whose domains are new, as they stand. -/
theorem entries_insertAll_entries (map later : DomainMap) :
    (map.insertAll later.entries).entries =
      map.entries ++ later.entries.filter fun entry => decide (entry.1 ∉ map.domains) := by
  rw [entries_insertAll, firstOfEach_filter fun domain => decide (domain ∉ map.domains),
    firstOfEach_of_nodup later.nodup]

theorem domains_insertAll_entries (map later : DomainMap) :
    (map.insertAll later.entries).domains =
      map.domains ++ later.domains.filter fun domain => decide (domain ∉ map.domains) := by
  rw [domains, entries_insertAll_entries, List.map_append, domains, domains, List.filter_map]
  rfl

/-- Filing a part of a map files the same domains in the same order, but for those left out. -/
theorem domains_insertAll_of_filter (map later : DomainMap) {part : DomainMap}
    {keep : String → Bool} (parted : part.domains = later.domains.filter keep) :
    (map.insertAll part.entries).domains =
      (map.insertAll later.entries).domains.filter fun domain =>
        decide (domain ∈ (map.insertAll part.entries).domains) := by
  rw [domains_insertAll_entries, domains_insertAll_entries, parted, List.filter_append]
  congr 1
  · symm
    rw [List.filter_eq_self]
    intro domain filed
    exact decide_eq_true (List.mem_append_left _ filed)
  · rw [List.filter_filter, List.filter_filter]
    apply List.filter_congr
    intro domain member
    by_cases filed : domain ∈ map.domains <;> simp [filed, member]

theorem empty_insertAll_entries (map : DomainMap) : empty.insertAll map.entries = map := by
  apply ext
  rw [entries_empty_insertAll, firstOfEach_of_nodup map.nodup]

theorem get?_insertAll (map : DomainMap) (entries : List (String × Source)) (domain : String) :
    (map.insertAll entries).get? domain =
      (map.get? domain).or (entries.lookup domain) := by
  rw [get?, entries_insertAll, List.lookup_append, lookup_firstOfEach,
    lookup_filter fun other => decide (other ∉ map.domains), ← get?]
  cases filed : map.get? domain with
  | some source => rfl
  | none => simp [get?_eq_none_iff.1 filed]

theorem get?_erase (map : DomainMap) (erased domain : String) :
    (map.erase erased).get? domain = if domain = erased then none else map.get? domain := by
  rw [get?, erase, lookup_filter fun other => other != erased]
  by_cases same : domain = erased <;> simp [same, get?]

end DomainMap

namespace Book

/-! ## Books -/

@[simp] theorem map_file (book : Book) (domain : String) (source : Source) :
    (book.file domain source).map = book.map.insertIfAbsent domain source := by
  rw [file]
  cases filed : book.map.get? domain with
  | none => rfl
  | some kept =>
      have present : domain ∈ book.map.domains := by
        apply Decidable.byContradiction
        intro absent
        rw [DomainMap.get?_eq_none_iff.2 absent] at filed
        contradiction
      apply DomainMap.ext
      rw [DomainMap.entries_insertIfAbsent, if_pos present]
      rfl

theorem map_fileAll (book : Book) (entries : List (String × Source)) :
    (book.fileAll entries).map = book.map.insertAll entries := by
  induction entries generalizing book with
  | nil => rfl
  | cons entry rest inductionHypothesis =>
      rw [fileAll, List.foldl_cons, ← fileAll, inductionHypothesis, map_file]
      rfl

end Book

end HostResolver.Config
