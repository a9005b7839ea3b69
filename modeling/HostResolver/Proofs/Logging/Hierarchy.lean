import HostResolver.Logging.Loggers

/-!
Loggers by name.

Owns: the loggers that a logger hangs from, that they stay the same unless one of them comes later,
for which names they are those that the name tells, and the level that a logger goes by.

Does not own: how levels come to be set.

A logger whose name has two points side by side, or begins with `r.`, `ro.` or `roo.`, may hang from
another one than its name tells, and may hang from another one when a logger above it comes later.
-/

namespace HostResolver.Logging.Loggers

/-! ## Names -/

/-- What stands before each point of a name that is given in reverse, the longest first. -/
def beforePoints : List Char → List (List Char)
  | [] => []
  | '.' :: rest => rest :: beforePoints rest
  | _ :: rest => beforePoints rest

/-- The names above a name. -/
def above (name : String) : List String :=
  (beforePoints name.toList.reverse).map fun found => String.ofList found.reverse

/-- The loggers below the root that a logger goes by, itself first. -/
def lineBelowRoot (name : String) : List String :=
  (name :: above name).filter fun found => !isRoot found

/-- No two points of a name stand side by side. -/
def HasSinglePoints (name : String) : Prop := ¬['.', '.'] <:+: name.toList.reverse

/-- A name from which the loggers above it can be told. -/
structure IsPlain (name : String) : Prop where
  points : HasSinglePoints name
  stem : ∀ stem ∈ ["r", "ro", "roo"], ¬stem.toList ++ ['.'] <+: name.toList

/-- What stands before a point of a name is above it. -/
def IsAbove (upper lower : String) : Prop := ∃ rest, lower.toList = upper.toList ++ '.' :: rest

theorem beforePoints_of_ne {character : Char} (other : character ≠ '.') (rest : List Char) :
    beforePoints (character :: rest) = beforePoints rest := by
  rw [beforePoints]
  exact other

theorem cuts_of_ne {character : Char} (other : character ≠ '.') (rest : List Char) :
    cuts (character :: rest) = cuts rest := by
  rw [cuts]
  · exact fun same _ => other same
  · exact fun _ _ same _ => other same

theorem apart_tail {character : Char} {rest : List Char}
    (apart : ¬['.', '.'] <:+: character :: rest) : ¬['.', '.'] <:+: rest :=
  fun within => apart (List.infix_cons within)

theorem ne_point_of_apart {character : Char} {rest : List Char}
    (apart : ¬['.', '.'] <:+: '.' :: character :: rest) : character ≠ '.' := by
  intro same
  rw [same] at apart
  exact apart ⟨[], rest, rfl⟩

theorem ne_point_of_uncut {character : Char} {rest : List Char}
    (notAlone : character = '.' → rest = [] → False)
    (notPoint : ∀ next others, character = '.' → rest = next :: others → False) :
    character ≠ '.' := by
  intro same
  cases rest with
  | nil => exact notAlone same rfl
  | cons next others => exact notPoint next others same rfl

/-- Where no two points stand side by side, a name is cut at every point but one at its start. -/
theorem cuts_eq_filter {name : List Char} (apart : ¬['.', '.'] <:+: name) :
    cuts name = (beforePoints name).filter fun found => !found.isEmpty := by
  induction name using cuts.induct with
  | case1 => rfl
  | case2 => rfl
  | case3 character rest inductionHypothesis =>
      have other := ne_point_of_apart apart
      have below := inductionHypothesis (apart_tail (apart_tail apart))
      rw [cuts, below, beforePoints, beforePoints_of_ne other]
      rfl
  | case4 character rest notAlone notPoint inductionHypothesis =>
      have other := ne_point_of_uncut notAlone notPoint
      rw [cuts_of_ne other, beforePoints_of_ne other, inductionHypothesis (apart_tail apart)]

/-- What is cut off a cut is what is cut off behind it. -/
theorem cuts_of_append {name part : List Char} {front back : List (List Char)}
    (apart : ¬['.', '.'] <:+: name) (found : cuts name = front ++ part :: back) :
    cuts part = back := by
  induction name using cuts.induct generalizing front with
  | case1 => exact absurd found (by simp [cuts])
  | case2 => exact absurd found (by simp [cuts])
  | case3 character rest inductionHypothesis =>
      rw [cuts] at found
      cases front with
      | nil =>
          obtain ⟨isPart, isBack⟩ := List.cons.inj found
          rw [← isPart, ← isBack, cuts_of_ne (ne_point_of_apart apart)]
      | cons first others =>
          exact inductionHypothesis (apart_tail (apart_tail apart)) (List.cons.inj found).2
  | case4 character rest notAlone notPoint inductionHypothesis =>
      rw [cuts_of_ne (ne_point_of_uncut notAlone notPoint)] at found
      exact inductionHypothesis (apart_tail apart) found

theorem exists_front_of_mem_cuts {name part : List Char} (member : part ∈ cuts name) :
    part ≠ [] ∧ ∃ front, name = front ++ '.' :: part := by
  induction name using cuts.induct with
  | case1 => exact absurd member (by simp [cuts])
  | case2 => exact absurd member (by simp [cuts])
  | case3 character rest inductionHypothesis =>
      rw [cuts] at member
      rcases List.mem_cons.1 member with isPart | later
      · rw [isPart]
        exact ⟨List.cons_ne_nil _ _, [], rfl⟩
      · obtain ⟨nonempty, front, whole⟩ := inductionHypothesis later
        exact ⟨nonempty, '.' :: character :: front, congrArg (['.', character] ++ ·) whole⟩
  | case4 character rest notAlone notPoint inductionHypothesis =>
      rw [cuts_of_ne (ne_point_of_uncut notAlone notPoint)] at member
      obtain ⟨nonempty, front, whole⟩ := inductionHypothesis member
      exact ⟨nonempty, character :: front, congrArg (List.cons character) whole⟩

/-! ## Ancestors -/

theorem findSome?_filter_of_skips {α : Type} {keep : α → Bool} {level : α → Option Level}
    (skips : ∀ found, keep found = false → level found = none) (all : List α) :
    (all.filter keep).findSome? level = all.findSome? level := by
  induction all with
  | nil => rfl
  | cons found rest inductionHypothesis =>
      cases kept : keep found with
      | true => rw [List.filter_cons_of_pos kept, List.findSome?_cons, List.findSome?_cons,
          inductionHypothesis]
      | false =>
          rw [List.filter_cons_of_neg (by simp [kept]), List.findSome?_cons, skips found kept]
          exact inductionHypothesis

variable {name : String} {level : String → Option Level}

/-- By name alone, the levels above a logger are those of its ancestors. -/
theorem findSome?_lineBelowRoot (points : HasSinglePoints name)
    (rootless : ∀ found, isRoot found = true → level found = none) :
    (lineBelowRoot name).findSome? level = (name :: ancestors name).findSome? level := by
  have skipsEmpty : ∀ found : List Char, (!found.isEmpty) = false →
      (level ∘ fun found => String.ofList found.reverse) found = none := by
    intro found dropped
    have isEmpty : found = [] := by simpa using dropped
    rw [isEmpty]
    exact rootless "" rfl
  have cut : (ancestors name).findSome? level = (above name).findSome? level := by
    unfold ancestors above
    rw [cuts_eq_filter points, List.findSome?_map, List.findSome?_map,
      findSome?_filter_of_skips skipsEmpty]
  unfold lineBelowRoot
  rw [findSome?_filter_of_skips (by simpa using rootless), List.findSome?_cons, List.findSome?_cons,
    cut]

variable {ancestor upper middle lower : String}

theorem IsAbove.trans (first : IsAbove upper middle) (second : IsAbove middle lower) :
    IsAbove upper lower := by
  obtain ⟨rest, whole⟩ := first
  obtain ⟨others, wholeBelow⟩ := second
  exact ⟨rest ++ '.' :: others, by rw [wholeBelow, whole, List.append_assoc, List.cons_append]⟩

theorem IsAbove.length_lt (isAbove : IsAbove upper lower) : upper.length < lower.length := by
  obtain ⟨rest, whole⟩ := isAbove
  rw [← String.length_toList, ← String.length_toList, whole, List.length_append, List.length_cons]
  omega

theorem not_isAbove_of_isRoot (atRoot : isRoot lower = true) : ¬IsAbove upper lower := by
  rintro ⟨rest, whole⟩
  have member : '.' ∈ lower.toList := by
    rw [whole]
    exact List.mem_append_right _ List.mem_cons_self
  rcases Bool.or_eq_true_iff.1 atRoot with isEmpty | isName
  · rw [String.isEmpty_iff.1 isEmpty] at member
    exact absurd member (by decide)
  · rw [eq_of_beq isName] at member
    exact absurd member (by decide)

theorem isAbove_of_mem_ancestors (member : ancestor ∈ ancestors name) : IsAbove ancestor name := by
  obtain ⟨part, isCut, isAncestor⟩ := List.mem_map.1 member
  obtain ⟨_, front, whole⟩ := exists_front_of_mem_cuts isCut
  refine ⟨front.reverse, ?_⟩
  rw [← isAncestor, String.toList_ofList, ← List.reverse_reverse name.toList, whole,
    List.reverse_append, List.reverse_cons, List.append_assoc]
  rfl

theorem hasSinglePoints_of_mem_ancestors (points : HasSinglePoints name)
    (member : ancestor ∈ ancestors name) : HasSinglePoints ancestor := by
  obtain ⟨rest, whole⟩ := isAbove_of_mem_ancestors member
  intro within
  refine points (within.trans ?_)
  rw [whole, List.reverse_append]
  exact (List.suffix_append _ _).isInfix

theorem isPlain_of_mem_ancestors (plain : IsPlain name) (member : ancestor ∈ ancestors name) :
    IsPlain ancestor where
  points := hasSinglePoints_of_mem_ancestors plain.points member
  stem := by
    obtain ⟨rest, whole⟩ := isAbove_of_mem_ancestors member
    intro stem isStem begins
    refine plain.stem stem isStem (begins.trans ?_)
    rw [whole]
    exact List.prefix_append _ _

theorem ancestors_of_append {front back : List String} (points : HasSinglePoints name)
    (found : ancestors name = front ++ ancestor :: back) : ancestors ancestor = back := by
  obtain ⟨cutsBefore, cutsBehind, isCuts, _, isBehind⟩ := List.map_eq_append_iff.1 found
  obtain ⟨part, others, isCons, isAncestor, isBack⟩ := List.map_eq_cons_iff.1 isBehind
  rw [isCons] at isCuts
  rw [ancestors, ← isAncestor, String.toList_ofList, List.reverse_reverse,
    cuts_of_append points isCuts, isBack]

/-! ## Known loggers -/

/-- The root is not among the known loggers, and every logger with a level is. -/
structure KnowsLevelled (loggers : Loggers) : Prop where
  rootless : ∀ name, isRoot name = true → loggers.known.contains name = false
  levelled : ∀ name level, loggers.levels.lookup name = some level →
    loggers.known.contains name = true

/-- No logger above a logger came later than it did. -/
def IsOrdered (loggers : Loggers) (name : String) : Prop :=
  ∀ upper ∈ loggers.known.takeWhile (· != name), ¬IsAbove upper name

/-- From the first record of a logger on, the levels that it goes by change with assignments only:
its name tells the loggers above it, or none of them came later than it did. -/
def IsSettled (loggers : Loggers) (name : String) : Prop :=
  IsPlain name ∨ (loggers.know name).IsOrdered name

variable {loggers others : Loggers}

theorem know_rootLevel (loggers : Loggers) (name : String) :
    (loggers.know name).rootLevel = loggers.rootLevel := by
  unfold know
  split <;> rfl

theorem know_levels (loggers : Loggers) (name : String) :
    (loggers.know name).levels = loggers.levels := by
  unfold know
  split <;> rfl

theorem know_of_known (known : isRoot name = true ∨ loggers.known.contains name = true) :
    loggers.know name = loggers := by
  unfold know
  exact if_pos (Bool.or_eq_true_iff.2 known)

theorem know_of_unknown (below : isRoot name = false)
    (unknown : loggers.known.contains name = false) :
    loggers.know name = { loggers with known := name :: loggers.known } := by
  unfold know
  rw [below, unknown]
  rfl

theorem contains_know (loggers : Loggers) (name found : String) :
    (loggers.know name).known.contains found =
      (loggers.known.contains found || (!isRoot name && found == name)) := by
  cases atRoot : isRoot name with
  | true =>
      rw [know_of_known (Or.inl atRoot)]
      exact (Bool.or_false _).symm
  | false =>
      cases known : loggers.known.contains name with
      | false =>
          rw [know_of_unknown atRoot known]
          exact List.contains_cons.trans (Bool.or_comm _ _)
      | true =>
          rw [know_of_known (Or.inr known)]
          by_cases same : found = name
          · rw [same, known]
            rfl
          · rw [beq_false_of_ne same]
            exact (Bool.or_false _).symm

theorem isRoot_or_contains_know (loggers : Loggers) (name : String) :
    isRoot name = true ∨ (loggers.know name).known.contains name = true := by
  cases atRoot : isRoot name with
  | true => exact Or.inl rfl
  | false =>
      rw [contains_know, atRoot, beq_self_eq_true]
      exact Or.inr (Bool.or_true _)

/-! ## What a logger hangs from -/

theorem parent?_congr (sameKnown : others.known = loggers.known) (name : String) :
    others.parent? name = loggers.parent? name := by
  unfold parent? passesOver
  rw [sameKnown]

theorem lineage_congr (sameKnown : others.known = loggers.known) (fuel : Nat) (name : String) :
    others.lineage fuel name = loggers.lineage fuel name := by
  induction fuel generalizing name with
  | zero => rfl
  | succ fuel inductionHypothesis =>
      have sameAbove : others.lineage fuel = loggers.lineage fuel := funext inductionHypothesis
      rw [lineage, lineage, parent?_congr sameKnown, sameAbove]

theorem know_known_congr (sameKnown : others.known = loggers.known) (name : String) :
    (others.know name).known = (loggers.know name).known := by
  unfold know
  rw [sameKnown]
  split
  · exact sameKnown
  · rfl

theorem isSettled_congr (sameKnown : others.known = loggers.known) :
    others.IsSettled name ↔ loggers.IsSettled name := by
  unfold IsSettled IsOrdered
  rw [know_known_congr sameKnown]

theorem effectiveLevel_congr (sameKnown : others.known = loggers.known)
    (sameLevels : others.levels = loggers.levels)
    (sameRoot : others.rootLevel = loggers.rootLevel) (name : String) :
    others.effectiveLevel name = loggers.effectiveLevel name := by
  unfold effectiveLevel
  rw [lineage_congr sameKnown, sameLevels, sameRoot]

theorem mem_ancestors_of_parent? {parent : String} (isParent : loggers.parent? name = some parent) :
    parent ∈ ancestors name := List.mem_of_find?_eq_some isParent

theorem contains_of_parent? {parent : String} (isParent : loggers.parent? name = some parent) :
    loggers.known.contains parent = true := by
  have passed := List.find?_some isParent
  exact (Bool.and_eq_true_iff.1 passed).1

/-- Above a logger hang known ones only. -/
theorem known_of_mem_lineage {fuel : Nat} {found : String}
    (member : found ∈ loggers.lineage fuel name) :
    found = name ∨ loggers.known.contains found = true := by
  induction fuel generalizing name with
  | zero => exact absurd member List.not_mem_nil
  | succ fuel inductionHypothesis =>
      rw [lineage] at member
      rcases List.mem_cons.1 member with same | later
      · exact Or.inl same
      · cases isParent : loggers.parent? name with
        | none =>
            rw [isParent] at later
            exact absurd later List.not_mem_nil
        | some parent =>
            rw [isParent, Option.map_some, Option.getD_some] at later
            rcases inductionHypothesis later with same | known
            · rw [same]
              exact Or.inr (contains_of_parent? isParent)
            · exact Or.inr known

/-! ### Loggers that come later -/

/-- A logger that comes later, but is not above a known one, does not change its parent. -/
theorem parent?_know {other : String}
    (known : isRoot name = true ∨ loggers.known.contains name = true)
    (notAbove : ¬IsAbove other name) :
    (loggers.know other).parent? name = loggers.parent? name := by
  rcases known with atRoot | isKnown
  · have noAncestor : ancestors name = [] := List.eq_nil_iff_forall_not_mem.2 fun ancestor member =>
      not_isAbove_of_isRoot atRoot (isAbove_of_mem_ancestors member)
    unfold parent?
    rw [noAncestor]
    rfl
  by_cases already : isRoot other = true ∨ loggers.known.contains other = true
  · rw [know_of_known already]
  · rw [not_or, Bool.not_eq_true, Bool.not_eq_true] at already
    have differs : other ≠ name := by
      rintro rfl
      exact absurd (already.2.symm.trans isKnown) Bool.false_ne_true
    have begins : (other :: loggers.known).takeWhile (· != name) =
        other :: loggers.known.takeWhile (· != name) :=
      List.takeWhile_cons_of_pos (by simpa using differs)
    unfold parent? passesOver
    rw [know_of_unknown already.1 already.2, ← List.head?_filter, ← List.head?_filter]
    refine congrArg List.head? (List.filter_congr fun ancestor member => ?_)
    have elsewhere : (ancestor == other) = false := by
      refine beq_false_of_ne ?_
      rintro rfl
      exact notAbove (isAbove_of_mem_ancestors member)
    simp only [begins, List.contains_cons, elsewhere, Bool.false_or]

theorem lineage_know {other : String} {fuel : Nat}
    (known : isRoot name = true ∨ loggers.known.contains name = true)
    (notAbove : ¬IsAbove other name) :
    (loggers.know other).lineage fuel name = loggers.lineage fuel name := by
  induction fuel generalizing name with
  | zero => rfl
  | succ fuel inductionHypothesis =>
      rw [lineage, lineage, parent?_know known notAbove]
      cases isParent : loggers.parent? name with
      | none => rfl
      | some parent =>
          have isAbove := isAbove_of_mem_ancestors (mem_ancestors_of_parent? isParent)
          have sameAbove := inductionHypothesis (Or.inr (contains_of_parent? isParent))
            fun further => notAbove (further.trans isAbove)
          rw [Option.map_some, Option.map_some, sameAbove]

/-- A logger above which none came later is one above which none came before. -/
theorem isOrdered_of_know {other : String}
    (known : isRoot name = true ∨ loggers.known.contains name = true)
    (ordered : (loggers.know other).IsOrdered name) :
    loggers.IsOrdered name ∧ (loggers.know other = loggers ∨ ¬IsAbove other name) := by
  by_cases already : isRoot other = true ∨ loggers.known.contains other = true
  · rw [know_of_known already] at ordered ⊢
    exact ⟨ordered, Or.inl rfl⟩
  rw [not_or, Bool.not_eq_true, Bool.not_eq_true] at already
  rcases known with atRoot | isKnown
  · exact ⟨fun upper _ => not_isAbove_of_isRoot atRoot, Or.inr (not_isAbove_of_isRoot atRoot)⟩
  have differs : other ≠ name := by
    rintro rfl
    exact absurd (already.2.symm.trans isKnown) Bool.false_ne_true
  unfold IsOrdered at ordered
  rw [know_of_unknown already.1 already.2, List.takeWhile_cons_of_pos (by simpa using differs),
    List.forall_mem_cons] at ordered
  exact ⟨ordered.2, Or.inr ordered.1⟩

/-! ## Levels -/

theorem lookup_eq_none_of_unknown (sound : KnowsLevelled loggers)
    (unknown : loggers.known.contains name = false) : loggers.levels.lookup name = none := by
  cases found : loggers.levels.lookup name with
  | none => rfl
  | some level =>
      have known := sound.levelled name level found
      exact absurd (unknown.symm.trans known) Bool.false_ne_true

theorem isRoot_or_stem_of_prefix (begins : ancestor.toList <+: rootName.toList) :
    isRoot ancestor = true ∨ ancestor ∈ ["r", "ro", "roo"] := by
  have cut : ancestor = String.ofList (rootName.toList.take ancestor.toList.length) := by
    rw [← List.prefix_iff_eq_take.1 begins, String.ofList_toList]
  have short : ancestor.toList.length ≤ 4 := begins.length_le
  generalize ancestor.toList.length = length at cut short
  match length with
  | 0 => exact Or.inl (by rw [cut]; decide)
  | 1 | 2 | 3 => exact Or.inr (by rw [cut]; decide)
  | 4 => exact Or.inl (by rw [cut]; decide)
  | more + 5 => omega

/-- A logger with a plain name passes over none of its ancestors. -/
theorem passesOver_of_plain (plain : IsPlain name) (sound : KnowsLevelled loggers)
    (member : ancestor ∈ ancestors name) : loggers.passesOver name ancestor = false := by
  unfold passesOver
  rw [Bool.and_eq_false_iff]
  by_cases begins : ancestor.toList <+: rootName.toList
  · rcases isRoot_or_stem_of_prefix begins with atRoot | isStem
    · have unknown := sound.rootless ancestor atRoot
      refine Or.inr ?_
      rw [List.contains_eq_mem, decide_eq_false_iff_not] at unknown ⊢
      exact fun later => unknown ((List.takeWhile_prefix _).subset later)
    · obtain ⟨rest, whole⟩ := isAbove_of_mem_ancestors member
      refine absurd ⟨rest, ?_⟩ (plain.stem ancestor isStem)
      rw [whole, List.append_assoc]
      rfl
  · refine Or.inl ?_
    rwa [← Bool.not_eq_true, List.isPrefixOf_iff_prefix]

/-- A logger passes over none of its ancestors if none of them came later than it did. -/
theorem passesOver_of_ordered (ordered : loggers.IsOrdered name)
    (member : ancestor ∈ ancestors name) : loggers.passesOver name ancestor = false := by
  have notLater : ancestor ∉ loggers.known.takeWhile (· != name) := fun later =>
    ordered ancestor later (isAbove_of_mem_ancestors member)
  unfold passesOver
  rw [List.contains_eq_mem, decide_eq_false notLater, Bool.and_false]

/-- No logger from one up to the root passes over an ancestor. -/
def IsDirect (loggers : Loggers) (fuel : Nat) (name : String) : Prop :=
  ∀ found ∈ loggers.lineage fuel name, ∀ ancestor ∈ ancestors found,
    loggers.passesOver found ancestor = false

theorem isDirect_of_plain {fuel : Nat} (plain : IsPlain name) (sound : KnowsLevelled loggers) :
    loggers.IsDirect fuel name := by
  intro found member
  induction fuel generalizing name with
  | zero => exact absurd member List.not_mem_nil
  | succ fuel inductionHypothesis =>
      rw [lineage] at member
      rcases List.mem_cons.1 member with rfl | later
      · exact fun ancestor => passesOver_of_plain plain sound
      · cases isParent : loggers.parent? name with
        | none =>
            rw [isParent] at later
            exact absurd later List.not_mem_nil
        | some parent =>
            rw [isParent, Option.map_some, Option.getD_some] at later
            exact inductionHypothesis
              (isPlain_of_mem_ancestors plain (mem_ancestors_of_parent? isParent)) later

theorem parent?_eq_find?
    (direct : ∀ ancestor ∈ ancestors name, loggers.passesOver name ancestor = false) :
    loggers.parent? name = (ancestors name).find? loggers.known.contains := by
  unfold parent?
  rw [← List.head?_filter, ← List.head?_filter]
  refine congrArg List.head? (List.filter_congr fun ancestor member => ?_)
  rw [direct ancestor member]
  exact Bool.and_true _

/-- The levels above a logger are those of the names above it: a logger with a level is known. -/
theorem findSome?_lineage (sound : KnowsLevelled loggers) {fuel : Nat}
    (points : HasSinglePoints name) (direct : loggers.IsDirect fuel name)
    (long : name.length < fuel) :
    ((loggers.lineage fuel name).findSome? fun found => loggers.levels.lookup found) =
      (name :: ancestors name).findSome? fun found => loggers.levels.lookup found := by
  induction fuel generalizing name with
  | zero => exact absurd long (Nat.not_lt_zero _)
  | succ fuel inductionHypothesis =>
      unfold IsDirect at direct
      rw [lineage, List.forall_mem_cons] at direct
      rw [lineage, List.findSome?_cons, List.findSome?_cons]
      -- Between a logger and its parent stand only unknown names.
      have aboveSame :
          (((loggers.parent? name).map (loggers.lineage fuel)).getD []).findSome?
            (fun found => loggers.levels.lookup found) =
          (ancestors name).findSome? fun found => loggers.levels.lookup found := by
        cases isParent : loggers.parent? name with
        | none =>
            rw [parent?_eq_find? direct.1] at isParent
            have unknown := List.find?_eq_none.1 isParent
            refine (List.findSome?_eq_none_iff.2 fun ancestor member => ?_).symm
            exact lookup_eq_none_of_unknown sound (by simpa using unknown ancestor member)
        | some parent =>
            have member := mem_ancestors_of_parent? isParent
            have directAbove := direct.2
            rw [isParent, Option.map_some, Option.getD_some] at directAbove
            rw [parent?_eq_find? direct.1] at isParent
            obtain ⟨_, front, back, whole, unknown⟩ := List.find?_eq_some_iff_append.1 isParent
            have short := (isAbove_of_mem_ancestors member).length_lt
            have nothing : (front.findSome? fun found => loggers.levels.lookup found) = none := by
              refine List.findSome?_eq_none_iff.2 fun ancestor inFront => ?_
              exact lookup_eq_none_of_unknown sound (by simpa using unknown ancestor inFront)
            have further := inductionHypothesis (hasSinglePoints_of_mem_ancestors points member)
              directAbove (by omega)
            rw [Option.map_some, Option.getD_some, further, ancestors_of_append points whole, whole,
              List.findSome?_append, nothing, Option.none_or]
      rw [aboveSame]

/-- The level that a logger goes by, by its name alone. -/
def nearestLevel (loggers : Loggers) (name : String) : Level :=
  ((lineBelowRoot name).findSome? fun found => loggers.levels.lookup found).getD loggers.rootLevel

theorem effectiveLevel_eq_nearestLevel (sound : KnowsLevelled loggers)
    (points : HasSinglePoints name) (direct : loggers.IsDirect (name.length + 1) name) :
    loggers.effectiveLevel name = loggers.nearestLevel name := by
  have rootless (found : String) (atRoot : isRoot found = true) :
      loggers.levels.lookup found = none :=
    lookup_eq_none_of_unknown sound (sound.rootless found atRoot)
  unfold effectiveLevel nearestLevel
  rw [findSome?_lineage sound points direct (Nat.lt_add_one _),
    findSome?_lineBelowRoot points rootless]

end HostResolver.Logging.Loggers
