import HostResolver.Proofs.Logging.Delivery
import HostResolver.Proofs.Logging.Hierarchy

/-!
Decisions on records.

Owns: that what is kept of earlier decisions agrees with the levels of the loggers, for every logger
that is settled, through every change of the loggers; and with it which records are delivered.

Does not own: which levels are set.

For another logger a decision may outlast a change of the loggers that it hangs from, since only the
setting of a level forgets what was decided.
-/

namespace HostResolver.Logging

namespace Loggers

variable {loggers others : Loggers} {name : String} {level : Level} {record : Record}
  {output : Output}

/-- Whether a logger lets records of a level pass, by the levels of now. -/
def lets (loggers : Loggers) (name : String) (level : Level) : Bool :=
  decide (0 < level) && decide (loggers.effectiveLevel name ≤ level)

/-- Decisions are kept on known loggers and the root, and agree with the levels where a logger is
settled. -/
structure Coherent (loggers : Loggers) : Prop extends KnowsLevelled loggers where
  known : ∀ name level allowed, loggers.decisions.lookup (name, level) = some allowed →
    isRoot name = true ∨ loggers.known.contains name = true
  decided : ∀ name level allowed, loggers.IsSettled name →
    loggers.decisions.lookup (name, level) = some allowed → allowed = loggers.lets name level

/-! ## What keeps decisions coherent -/

theorem coherent_start (tracing : Tracing) : (start tracing).Coherent where
  rootless := fun _ _ => rfl
  levelled := fun _ _ absent => nomatch absent
  known := fun _ _ _ absent => nomatch absent
  decided := fun _ _ _ _ absent => nomatch absent

theorem lets_congr (sameKnown : others.known = loggers.known)
    (sameLevels : others.levels = loggers.levels)
    (sameRoot : others.rootLevel = loggers.rootLevel) : others.lets = loggers.lets := by
  funext name level
  unfold lets
  rw [effectiveLevel_congr sameKnown sameLevels sameRoot]

/-- Handlers and switches have no part in decisions. -/
theorem coherent_congr (coherent : loggers.Coherent) (sameKnown : others.known = loggers.known)
    (sameLevels : others.levels = loggers.levels)
    (sameRoot : others.rootLevel = loggers.rootLevel)
    (sameDecisions : others.decisions = loggers.decisions) : others.Coherent where
  rootless := by rw [sameKnown]; exact coherent.rootless
  levelled := by rw [sameKnown, sameLevels]; exact coherent.levelled
  known := by rw [sameKnown, sameDecisions]; exact coherent.known
  decided := by
    rw [sameDecisions, lets_congr sameKnown sameLevels sameRoot]
    intro name level allowed settled
    exact coherent.decided name level allowed ((isSettled_congr sameKnown).1 settled)

/-- Loggers without decisions are coherent if they know those with levels. -/
theorem coherent_of_undecided (sound : KnowsLevelled loggers)
    (undecided : loggers.decisions = []) : loggers.Coherent where
  rootless := sound.rootless
  levelled := sound.levelled
  known := by rw [undecided]; exact fun _ _ _ absent => nomatch absent
  decided := by rw [undecided]; exact fun _ _ _ _ absent => nomatch absent

theorem know_decisions (loggers : Loggers) (name : String) :
    (loggers.know name).decisions = loggers.decisions := by
  unfold know
  split <;> rfl

theorem knowsLevelled_know (sound : KnowsLevelled loggers) (name : String) :
    KnowsLevelled (loggers.know name) where
  rootless := by
    intro found atRoot
    rw [contains_know, sound.rootless found atRoot, Bool.false_or]
    by_cases same : found = name
    · rw [← same, atRoot]
      rfl
    · rw [beq_false_of_ne same, Bool.and_false]
  levelled := by
    intro found level isLevel
    rw [know_levels] at isLevel
    rw [contains_know, sound.levelled found level isLevel, Bool.true_or]

/-- What a settled logger goes by does not change when another logger becomes known. -/
theorem effectiveLevel_know (sound : KnowsLevelled loggers) {other : String}
    (known : isRoot name = true ∨ loggers.known.contains name = true)
    (settled : (loggers.know other).IsSettled name) :
    loggers.IsSettled name ∧
      (loggers.know other).effectiveLevel name = loggers.effectiveLevel name := by
  rcases settled with plain | ordered
  · refine ⟨Or.inl plain, ?_⟩
    have soundLater := knowsLevelled_know sound other
    rw [effectiveLevel_eq_nearestLevel soundLater plain.points (isDirect_of_plain plain soundLater),
      effectiveLevel_eq_nearestLevel sound plain.points (isDirect_of_plain plain sound)]
    unfold nearestLevel
    rw [know_levels, know_rootLevel]
  · have knownLater : isRoot name = true ∨ (loggers.know other).known.contains name = true :=
      known.imp_right fun isKnown => by rw [contains_know, isKnown, Bool.true_or]
    rw [know_of_known knownLater] at ordered
    obtain ⟨orderedBefore, same | notAbove⟩ := isOrdered_of_know known ordered
    · rw [same]
      exact ⟨Or.inr (by rwa [know_of_known known]), rfl⟩
    · refine ⟨Or.inr (by rwa [know_of_known known]), ?_⟩
      unfold effectiveLevel
      rw [lineage_know known notAbove, know_levels, know_rootLevel]

theorem coherent_know (coherent : loggers.Coherent) (name : String) :
    (loggers.know name).Coherent where
  toKnowsLevelled := knowsLevelled_know coherent.toKnowsLevelled name
  known := by
    intro found level allowed isDecided
    rw [know_decisions] at isDecided
    refine (coherent.known found level allowed isDecided).imp_right fun isKnown => ?_
    rw [contains_know, isKnown, Bool.true_or]
  decided := by
    intro found level allowed settled isDecided
    rw [know_decisions] at isDecided
    have known := coherent.known found level allowed isDecided
    obtain ⟨settledBefore, sameLevel⟩ :=
      effectiveLevel_know coherent.toKnowsLevelled known settled
    rw [lets, sameLevel]
    exact coherent.decided found level allowed settledBefore isDecided

theorem knowsLevelled_setLevel (sound : KnowsLevelled loggers) (name : String) (level : Level) :
    KnowsLevelled (loggers.setLevel name level) := by
  unfold setLevel
  cases atRoot : isRoot name with
  | true => exact ⟨sound.rootless, sound.levelled⟩
  | false =>
      refine ⟨(knowsLevelled_know sound name).rootless, ?_⟩
      intro found set isLevel
      change (loggers.know name).known.contains found = true
      rw [contains_know, atRoot]
      by_cases same : found = name
      · rw [same, beq_self_eq_true]
        exact Bool.or_true _
      · have differs : (found == name) = false := beq_false_of_ne same
        change List.lookup found ((name, level) :: loggers.levels) = some set at isLevel
        rw [List.lookup_cons, differs] at isLevel
        rw [sound.levelled found set isLevel, Bool.true_or]

/-- A new level forgets all decisions. -/
theorem coherent_setLevel (sound : KnowsLevelled loggers) (name : String) (level : Level) :
    (loggers.setLevel name level).Coherent := by
  refine coherent_of_undecided (knowsLevelled_setLevel sound name level) ?_
  unfold setLevel
  split <;> rfl

theorem coherent_assign (coherent : loggers.Coherent) (levels : List (String × Level)) :
    (loggers.assign levels).Coherent := by
  unfold assign
  induction levels generalizing loggers with
  | nil => exact coherent
  | cons entry rest inductionHypothesis =>
      exact inductionHypothesis (coherent_setLevel coherent.toKnowsLevelled entry.1 entry.2)

theorem coherent_clear (coherent : loggers.Coherent) (level : Level) :
    (loggers.clear level).Coherent :=
  coherent_congr (coherent_setLevel coherent.toKnowsLevelled rootName level) rfl rfl rfl rfl

theorem coherent_equip (coherent : loggers.Coherent) (handlers : List Handler)
    (levels : List (String × Level)) : (loggers.equip handlers levels).Coherent := by
  have equipped : ({ loggers with handlers := handlers } : Loggers).Coherent :=
    coherent_congr coherent rfl rfl rfl rfl
  exact coherent_congr (coherent_assign equipped levels) rfl rfl rfl rfl

theorem isEnabled_of_settled (coherent : loggers.Coherent) (settled : loggers.IsSettled name) :
    loggers.isEnabled name level = loggers.lets name level := by
  unfold isEnabled
  cases isDecided : loggers.decisions.lookup (name, level) with
  | some allowed => exact coherent.decided name level allowed settled isDecided
  | none => rfl

theorem coherent_decideOn (coherent : loggers.Coherent) (name : String) (level : Level) :
    (loggers.decideOn name level).Coherent := by
  have known := coherent_know coherent name
  have sameSettled (found : String) :
      (loggers.decideOn name level).IsSettled found ↔ (loggers.know name).IsSettled found :=
    isSettled_congr rfl
  have sameLets : (loggers.decideOn name level).lets = (loggers.know name).lets :=
    lets_congr rfl rfl rfl
  -- A decision is the new one or one of before.
  have exists_decision (found : String) (asked : Level) (allowed : Bool)
      (isDecided : (loggers.decideOn name level).decisions.lookup (found, asked) = some allowed) :
      (found = name ∧ asked = level ∧ allowed = (loggers.know name).isEnabled name level) ∨
        (loggers.know name).decisions.lookup (found, asked) = some allowed := by
    change List.lookup (found, asked) (((name, level), (loggers.know name).isEnabled name level) ::
      (loggers.know name).decisions) = some allowed at isDecided
    by_cases same : (found, asked) = (name, level)
    · rw [same, List.lookup_cons_self, Option.some.injEq] at isDecided
      obtain ⟨sameName, sameLevel⟩ := Prod.mk.inj same
      exact Or.inl ⟨sameName, sameLevel, isDecided.symm⟩
    · have differs : ((found, asked) == (name, level)) = false := beq_false_of_ne same
      rw [List.lookup_cons, differs] at isDecided
      exact Or.inr isDecided
  refine { rootless := known.rootless, levelled := known.levelled, known := ?_, decided := ?_ }
  · intro found asked allowed isDecided
    rcases exists_decision found asked allowed isDecided with ⟨rfl, _, _⟩ | before
    · exact isRoot_or_contains_know loggers found
    · exact known.known found asked allowed before
  · intro found asked allowed settled isDecided
    rw [sameLets]
    rw [sameSettled] at settled
    rcases exists_decision found asked allowed isDecided with ⟨rfl, rfl, rfl⟩ | before
    · exact isEnabled_of_settled known settled
    · exact known.decided found asked allowed settled before

theorem coherent_log (coherent : loggers.Coherent) (record : Record) (output : Output) :
    (loggers.log record output).1.Coherent := by
  rw [log_loggers]
  exact coherent_decideOn coherent record.logger record.level

theorem coherent_logIfAny (coherent : loggers.Coherent) (report : Option Record)
    (output : Output) : (loggers.logIfAny report output).1.Coherent := by
  cases report with
  | none => exact coherent
  | some record => exact coherent_log coherent record output

/-! ## Records -/

/-- A record under the name that its logger is shown by. -/
def named (record : Record) : Record :=
  { record with logger := if isRoot record.logger then rootName else record.logger }

theorem know_tracing (loggers : Loggers) (name : String) :
    (loggers.know name).tracing = loggers.tracing := by
  unfold know
  split <;> rfl

theorem decideOn_tracing (loggers : Loggers) (name : String) (level : Level) :
    (loggers.decideOn name level).tracing = loggers.tracing := know_tracing loggers name

theorem log_output (loggers : Loggers) (record : Record) (output : Output) :
    (loggers.log record output).2 =
      if (loggers.decideOn record.logger record.level).isEnabled record.logger record.level then
        loggers.deliver (named record) output
      else output := by
  have handlers := decideOn_handlers loggers record.logger record.level
  have tracing := decideOn_tracing loggers record.logger record.level
  unfold log deliver
  simp only
  split
  · rw [handlers, tracing]
    rfl
  · rfl

theorem isSettled_know (settled : loggers.IsSettled name) : (loggers.know name).IsSettled name := by
  refine settled.imp_right fun ordered => ?_
  rwa [know_of_known (isRoot_or_contains_know loggers name)]

/-- A record of a settled logger is delivered exactly if the level that it goes by lets it pass. -/
theorem log_output_of_settled (coherent : loggers.Coherent)
    (settled : loggers.IsSettled record.logger) :
    (loggers.log record output).2 =
      if (loggers.know record.logger).lets record.logger record.level then
        loggers.deliver (named record) output
      else output := by
  have decided := coherent_decideOn coherent record.logger record.level
  have sameSettled : (loggers.decideOn record.logger record.level).IsSettled record.logger ↔
      (loggers.know record.logger).IsSettled record.logger := isSettled_congr rfl
  have sameLets : (loggers.decideOn record.logger record.level).lets =
      (loggers.know record.logger).lets := lets_congr rfl rfl rfl
  rw [log_output, isEnabled_of_settled decided (sameSettled.2 (isSettled_know settled)), sameLets]

end Loggers

end HostResolver.Logging
