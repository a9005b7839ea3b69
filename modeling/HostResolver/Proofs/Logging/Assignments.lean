import HostResolver.Proofs.Logging.Decisions

/-!
Levels that were assigned.

Owns: the levels that a configuration assigns, in order, that the loggers carry the last one that
was assigned to each of them, and that a logger goes by the nearest assigned one.

Does not own: runs of several configurations.
-/

namespace HostResolver.Logging

open HostResolver.Document

/-- Levels as they are assigned to loggers by name. The root goes by two names. -/
abbrev Assignments := List (String × Level)

/-- The one name by which assignments to a logger are told apart from others. -/
def loggerOf (name : String) : String := if Loggers.isRoot name then Loggers.rootName else name

namespace Assignments

/-- The last level that was assigned to a logger. -/
def last? (assignments : Assignments) (name : String) : Option Level :=
  (assignments.reverse.find? fun entry => loggerOf entry.1 == loggerOf name).map Prod.snd

/-- The level of a logger that was not assigned one. -/
def unassigned (name : String) : Level := if Loggers.isRoot name then Level.warning else 0

/-- The level that was assigned last to the first of some loggers that was assigned one, the root at
last. -/
def nearestAmong (assignments : Assignments) (names : List String) : Level :=
  ((names ++ [Loggers.rootName]).findSome? assignments.last?).getD Level.warning

theorem last?_append_singleton (assignments : Assignments) (name other : String) (level : Level) :
    last? (assignments ++ [(name, level)]) other =
      if loggerOf name = loggerOf other then some level else last? assignments other := by
  unfold last?
  rw [List.reverse_append, List.reverse_singleton, List.singleton_append, List.find?_cons]
  by_cases same : loggerOf name = loggerOf other
  · rw [if_pos same, same, beq_self_eq_true]
    rfl
  · rw [if_neg same, beq_false_of_ne same]

theorem pos_of_last? {assignments : Assignments} {name : String} {level : Level}
    (positive : ∀ entry ∈ assignments, 0 < entry.2) (isLast : assignments.last? name = some level) :
    0 < level := by
  obtain ⟨entry, found, isLevel⟩ := Option.map_eq_some_iff.1 isLast
  rw [← isLevel]
  exact positive entry (List.mem_reverse.1 (List.mem_of_find?_eq_some found))

theorem nearestAmong_pos {assignments : Assignments}
    (positive : ∀ entry ∈ assignments, 0 < entry.2) (names : List String) :
    0 < assignments.nearestAmong names := by
  unfold nearestAmong
  cases found : (names ++ [Loggers.rootName]).findSome? assignments.last? with
  | none => exact (by decide : (0 : Int) < 30)
  | some level =>
      obtain ⟨logger, _, isLast⟩ := List.exists_of_findSome?_eq_some found
      exact pos_of_last? positive isLast

end Assignments

/-! ## Levels of a configuration -/

theorem Level.named?_pos {name : String} {level : Level}
    (isLevel : Level.named? name = some level) : 0 < level := by
  unfold Level.named? at isLevel
  split at isLevel
  all_goals first
    | exact Option.some.inj isLevel ▸ (by decide)
    | exact nomatch isLevel

theorem Level.ofValue?_pos {value : Value} {default level : Level} (positive : 0 < default)
    (isLevel : Level.ofValue? value default = some level) : 0 < level := by
  obtain ⟨text, _, rfl⟩ := Option.map_eq_some_iff.1 isLevel
  cases isRead : Level.read? text with
  | none => exact positive
  | some found => exact Level.named?_pos isRead

namespace Configuration

/-- The levels that a configuration assigns, the root first. -/
def assignments (configuration : Configuration) : Assignments :=
  (Loggers.rootName, configuration.level) :: configuration.levels?.getD []

theorem level_pos {setting : Value} {configuration : Configuration}
    (isConfiguration : Configuration.ofValue setting = .ok configuration) :
    0 < configuration.level := by
  have ofEntries_pos {entries : Entries} (isEntries : ofEntries entries = .ok configuration) :
      0 < configuration.level := by
    unfold ofEntries at isEntries
    cases isLevel :
        Level.ofValue? ((entries.get? "level").getD (.text "info")) defaultLevel with
    | none =>
        rw [isLevel] at isEntries
        exact nomatch isEntries
    | some level =>
        rw [isLevel] at isEntries
        rw [← Except.ok.inj isEntries]
        exact Level.ofValue?_pos (by decide) isLevel
  unfold ofValue at isConfiguration
  split at isConfiguration
  · exact ofEntries_pos isConfiguration
  · split at isConfiguration
    · exact ofEntries_pos isConfiguration
    · exact nomatch isConfiguration

theorem namedLevels_pos {root : Level} {entries : Entries} {levels : Assignments}
    (positive : 0 < root) (isLevels : namedLevels root entries = some levels) :
    ∀ entry ∈ levels, 0 < entry.2 := by
  induction entries generalizing levels with
  | nil =>
      rw [← Option.some.inj isLevels]
      exact fun _ absent => nomatch absent
  | cons entry rest inductionHypothesis =>
      rw [namedLevels_cons] at isLevels
      obtain ⟨first, isFirst, isLevels⟩ := Option.bind_eq_some_iff.1 isLevels
      obtain ⟨others, isOthers, rfl⟩ := Option.map_eq_some_iff.1 isLevels
      obtain ⟨name, _, isFirst⟩ := Option.bind_eq_some_iff.1 isFirst
      obtain ⟨level, isLevel, rfl⟩ := Option.map_eq_some_iff.1 isFirst
      exact List.forall_mem_cons.2
        ⟨Level.ofValue?_pos positive isLevel, inductionHypothesis isOthers⟩

theorem assignments_pos {setting : Value} {configuration : Configuration}
    (isConfiguration : Configuration.ofValue setting = .ok configuration) :
    ∀ entry ∈ configuration.assignments, 0 < entry.2 := by
  have positive := level_pos isConfiguration
  refine List.forall_mem_cons.2 ⟨positive, ?_⟩
  cases isLevels : configuration.levels? with
  | none => exact fun _ absent => nomatch absent
  | some levels =>
      obtain ⟨entries, _, isNamed⟩ := levels?_eq_some_iff.1 isLevels
      exact namedLevels_pos positive isNamed

end Configuration

/-! ## Levels of the loggers -/

namespace Loggers

/-- The loggers have the levels that were assigned last. -/
structure Carries (loggers : Loggers) (assignments : Assignments) : Prop where
  root : loggers.rootLevel = (assignments.last? rootName).getD Level.warning
  below : ∀ name, isRoot name = false → loggers.levels.lookup name = assignments.last? name

variable {loggers : Loggers} {assignments : Assignments}

theorem loggerOf_of_isRoot {name : String} (atRoot : isRoot name = true) :
    loggerOf name = rootName := if_pos atRoot

theorem loggerOf_of_not_isRoot {name : String} (below : isRoot name = false) :
    loggerOf name = name := if_neg (by simp [below])

theorem last?_of_isRoot {name : String} (atRoot : isRoot name = true) :
    assignments.last? name = assignments.last? rootName := by
  unfold Assignments.last?
  rw [loggerOf_of_isRoot atRoot, loggerOf_of_isRoot (by decide : isRoot rootName = true)]

theorem carries_start (tracing : Tracing) : (start tracing).Carries [] where
  root := rfl
  below := fun _ _ => rfl

theorem carries_setLevel (carries : loggers.Carries assignments) (name : String) (level : Level) :
    (loggers.setLevel name level).Carries (assignments ++ [(name, level)]) := by
  have rootIsRoot : loggerOf rootName = rootName := loggerOf_of_isRoot (by decide)
  unfold setLevel
  cases atRoot : isRoot name with
  | true =>
      constructor
      · rw [Assignments.last?_append_singleton, loggerOf_of_isRoot atRoot, rootIsRoot, if_pos rfl]
        rfl
      · intro other below
        have differs : loggerOf name ≠ loggerOf other := by
          rw [loggerOf_of_isRoot atRoot, loggerOf_of_not_isRoot below]
          intro same
          rw [← same] at below
          exact absurd below (by decide)
        rw [Assignments.last?_append_singleton, if_neg differs]
        exact carries.below other below
  | false =>
      constructor
      · have differs : loggerOf name ≠ loggerOf rootName := by
          rw [loggerOf_of_not_isRoot atRoot, rootIsRoot]
          intro same
          rw [same] at atRoot
          exact absurd atRoot (by decide)
        rw [Assignments.last?_append_singleton, if_neg differs, ← carries.root]
        exact know_rootLevel loggers name
      · intro other below
        change List.lookup other ((name, level) :: loggers.levels) = _
        rw [Assignments.last?_append_singleton, loggerOf_of_not_isRoot atRoot,
          loggerOf_of_not_isRoot below, List.lookup_cons]
        by_cases same : name = other
        · rw [if_pos same, same, beq_self_eq_true]
        · rw [if_neg same, beq_false_of_ne (Ne.symm same)]
          exact carries.below other below

theorem carries_assign (carries : loggers.Carries assignments) (levels : Assignments) :
    (loggers.assign levels).Carries (assignments ++ levels) := by
  unfold assign
  induction levels generalizing loggers assignments with
  | nil => rwa [List.append_nil]
  | cons entry rest inductionHypothesis =>
      rw [List.foldl_cons, List.append_cons]
      exact inductionHypothesis (carries_setLevel carries entry.1 entry.2)

theorem carries_log (carries : loggers.Carries assignments) (record : Record) (output : Output) :
    (loggers.log record output).1.Carries assignments := by
  rw [log_loggers]
  constructor
  · exact (know_rootLevel loggers record.logger).trans carries.root
  · intro name below
    change List.lookup name (loggers.know record.logger).levels = _
    rw [know_levels]
    exact carries.below name below

theorem carries_logIfAny (carries : loggers.Carries assignments) (report : Option Record)
    (output : Output) : (loggers.logIfAny report output).1.Carries assignments := by
  cases report with
  | none => exact carries
  | some record => exact carries_log carries record output

theorem carries_clear (carries : loggers.Carries assignments) (level : Level) :
    (loggers.clear level).Carries (assignments ++ [(rootName, level)]) :=
  have set := carries_setLevel carries rootName level
  ⟨set.root, set.below⟩

theorem carries_equip (carries : loggers.Carries assignments) (handlers : List Handler)
    (levels : Assignments) : (loggers.equip handlers levels).Carries (assignments ++ levels) :=
  have equipped : ({ loggers with handlers := handlers } : Loggers).Carries assignments :=
    ⟨carries.root, carries.below⟩
  have set := carries_assign equipped levels
  ⟨set.root, set.below⟩

theorem ownLevel_of_carries (carries : loggers.Carries assignments) (name : String) :
    loggers.ownLevel name = (assignments.last? name).getD (Assignments.unassigned name) := by
  unfold ownLevel Assignments.unassigned
  cases atRoot : isRoot name with
  | true =>
      rw [last?_of_isRoot atRoot, if_pos rfl, if_pos rfl]
      exact carries.root
  | false => exact congrArg (Option.getD · 0) (carries.below name atRoot)

theorem findSome?_lookup_of_carries (carries : loggers.Carries assignments) {names : List String}
    (below : ∀ name ∈ names, isRoot name = false) :
    (names.findSome? fun found => loggers.levels.lookup found) =
      names.findSome? assignments.last? := by
  induction names with
  | nil => rfl
  | cons name rest inductionHypothesis =>
      have restSame := inductionHypothesis fun found member =>
        below found (List.mem_cons_of_mem _ member)
      rw [List.findSome?_cons, List.findSome?_cons, restSame,
        carries.below name (below name List.mem_cons_self)]

/-- The loggers from one up to the root, once it is known. -/
def line (loggers : Loggers) (name : String) : List String :=
  (loggers.know name).lineage (name.length + 1) name

theorem nearestAmong_of_carries (carries : loggers.Carries assignments) {names : List String}
    (below : ∀ found ∈ names, isRoot found = false) :
    assignments.nearestAmong names =
      (names.findSome? fun found => loggers.levels.lookup found).getD loggers.rootLevel := by
  unfold Assignments.nearestAmong
  rw [findSome?_lookup_of_carries carries below, carries.root, List.findSome?_append,
    List.findSome?_singleton]
  cases names.findSome? assignments.last? <;> rfl

theorem line_of_isRoot (loggers : Loggers) {name : String} (atRoot : isRoot name = true) :
    loggers.line name = [name] := by
  have noAncestor : ancestors name = [] := List.eq_nil_iff_forall_not_mem.2 fun ancestor member =>
    not_isAbove_of_isRoot atRoot (isAbove_of_mem_ancestors member)
  unfold line
  rw [lineage, parent?, noAncestor]
  rfl

/-- A logger goes by the level that was assigned last to the nearest of the loggers above it. -/
theorem effectiveLevel_of_carries (carries : loggers.Carries assignments)
    (sound : KnowsLevelled loggers) (name : String) :
    (loggers.know name).effectiveLevel name = assignments.nearestAmong (loggers.line name) := by
  have soundThen := knowsLevelled_know sound name
  cases atRoot : isRoot name with
  | true =>
      have unset := lookup_eq_none_of_unknown soundThen (soundThen.rootless name atRoot)
      have sameLine := line_of_isRoot loggers atRoot
      unfold line at sameLine
      unfold effectiveLevel line
      rw [sameLine, List.findSome?_singleton, unset, know_rootLevel, carries.root]
      unfold Assignments.nearestAmong
      rw [List.singleton_append, List.findSome?_cons, List.findSome?_singleton,
        last?_of_isRoot atRoot]
      cases assignments.last? rootName <;> rfl
  | false =>
      have below : ∀ found ∈ loggers.line name, isRoot found = false := by
        intro found member
        rcases known_of_mem_lineage member with rfl | known
        · exact atRoot
        · cases foundRoot : isRoot found with
          | false => rfl
          | true =>
              have unknown := soundThen.rootless found foundRoot
              exact absurd (unknown.symm.trans known) Bool.false_ne_true
      rw [nearestAmong_of_carries carries below]
      unfold effectiveLevel line
      rw [know_levels, know_rootLevel]

/-- The loggers above one can be told by its name: it has no two points side by side, and it is
plain, or none of the loggers above it came later than one below. -/
structure IsTold (loggers : Loggers) (name : String) : Prop where
  points : HasSinglePoints name
  above : IsPlain name ∨ ∀ found ∈ loggers.line name, (loggers.know name).IsOrdered found

/-- Where the loggers above one can be told by its name, so can the level that it goes by. -/
theorem nearestAmong_line_of_isTold (carries : loggers.Carries assignments)
    (sound : KnowsLevelled loggers) {name : String} (told : loggers.IsTold name) :
    assignments.nearestAmong (loggers.line name) =
      assignments.nearestAmong (lineBelowRoot name) := by
  have soundThen := knowsLevelled_know sound name
  have below : ∀ found ∈ lineBelowRoot name, isRoot found = false := fun found member => by
    simpa using (List.mem_filter.1 member).2
  have direct : (loggers.know name).IsDirect (name.length + 1) name := by
    rcases told.above with plain | ordered
    · exact isDirect_of_plain plain soundThen
    · exact fun found member ancestor => passesOver_of_ordered (ordered found member)
  rw [← effectiveLevel_of_carries carries sound, nearestAmong_of_carries carries below,
    effectiveLevel_eq_nearestLevel soundThen told.points direct]
  unfold nearestLevel
  rw [know_levels, know_rootLevel]

end Loggers

end HostResolver.Logging
