import HostResolver.Config.Feed

/-!
Lines that are handed over one by one, and refused ones among them.

Owns: that the steps of a line do together what the line does at once, so that a refused line leaves
nothing behind, and from it, by induction over what is handed over, that a run ends as it would
without its refused lines.

Does not own: which lines are refused.
-/

namespace HostResolver.Config

open HostResolver.Address HostResolver.Servers HostResolver.Text

variable {order : Order} {progress : Progress}

/-! ## Steps -/

namespace Steps

theorem take_commit (order : Order) (progress : Progress) :
    (commit order).take progress = (progress.commit order, none) := by
  rw [Progress.commit, commit, take_get_bind]
  cases empty : progress.draft.servers.isEmpty with
  | true =>
      simp only [empty, if_true]
      rfl
  | false =>
      simp only [empty, Bool.false_eq_true, if_false]
      exact take_bind (take_modify _)

/-- The steps of a directive that takes effect. -/
theorem take_perform_of_ok {line : List Char} {directive : Directive} {later : Progress}
    (applied : progress.apply order line directive = .ok later) :
    (perform order line directive).take progress = (later, none) := by
  cases directive with
  | nameserver value =>
      rw [Progress.apply] at applied
      rw [perform, addServer, take_get_bind]
      cases valueRead : Nameserver.readEndpoint value progress.draft.port with
      | error error => simp [valueRead] at applied
      | ok server =>
          simp only [valueRead, Except.ok.injEq] at applied
          subst applied
          simp only [valueRead, take_mapError_ok, take_modify]
  | domain name =>
      rw [Progress.apply, Except.ok.injEq] at applied
      subst applied
      rw [perform, take_bind (take_commit order progress), take_modify]
  | port text =>
      rw [Progress.apply] at applied
      rw [perform, usePort]
      cases portRead : Port.read text with
      | error error => simp [portRead] at applied
      | ok port =>
          simp only [portRead, Except.ok.injEq] at applied
          subst applied
          rw [take_mapError_ok, take_modify]
  | sortlist =>
      rw [Progress.apply, Except.ok.injEq] at applied
      subst applied
      rw [perform, take_modify]
  | other =>
      rw [Progress.apply, Except.ok.injEq] at applied
      subst applied
      rw [perform, take_pure]

/-- The steps of a directive that is refused: none of them comes before the one that fails. -/
theorem take_perform_of_error {line : List Char} {directive : Directive} {error : LineError}
    (refused : progress.apply order line directive = .error error) :
    (perform order line directive).take progress = (progress, some error) := by
  cases directive with
  | nameserver value =>
      rw [Progress.apply] at refused
      rw [perform, addServer, take_get_bind]
      cases valueRead : Nameserver.readEndpoint value progress.draft.port with
      | ok server => simp [valueRead] at refused
      | error cause =>
          simp only [valueRead, Except.error.injEq] at refused
          subst refused
          simp only [valueRead, take_mapError_error]
  | domain name => simp [Progress.apply] at refused
  | port text =>
      rw [Progress.apply] at refused
      rw [perform, usePort]
      cases portRead : Port.read text with
      | ok port => simp [portRead] at refused
      | error cause =>
          simp only [portRead, Except.error.injEq] at refused
          subst refused
          rw [take_mapError_error]
  | sortlist => simp [Progress.apply] at refused
  | other => simp [Progress.apply] at refused

theorem take_readLine_of_ok {line : List Char} {later : Progress}
    (lineRead : progress.readLine order line = .ok later) :
    (readLine order line).take progress = (later, none) := by
  rw [Progress.readLine] at lineRead
  rw [readLine]
  cases asked : Directive.ofLine line with
  | error error => simp [asked] at lineRead
  | ok directive =>
      simp only [asked] at lineRead
      rw [take_ok_bind]
      exact take_perform_of_ok lineRead

theorem take_readLine_of_error {line : List Char} {error : LineError}
    (refused : progress.readLine order line = .error error) :
    (readLine order line).take progress = (progress, some error) := by
  rw [Progress.readLine] at refused
  rw [readLine]
  cases asked : Directive.ofLine line with
  | error cause =>
      simp only [asked, Except.error.injEq] at refused
      subst refused
      rw [take_error_bind]
  | ok directive =>
      simp only [asked] at refused
      rw [take_ok_bind]
      exact take_perform_of_error refused

end Steps

/-! ## One item -/

namespace Progress

theorem feed_commit (progress : Progress) (order : Order) :
    progress.feed order .commit = (progress.commit order, none) :=
  Steps.take_commit order progress

/-- **One step.** A line is refused exactly if it cannot be read, and then the state is the one
before it. -/
theorem feed_refused_iff {text : List Char} {error : LineError} {after : Progress} :
    progress.feed order (.line text) = (after, some error) ↔
      progress.readLine order text = .error error ∧ after = progress := by
  rw [feed, Item.steps]
  cases lineRead : progress.readLine order text with
  | ok later =>
      rw [Steps.take_readLine_of_ok lineRead]
      simp
  | error cause =>
      rw [Steps.take_readLine_of_error lineRead]
      simp only [Prod.mk.injEq, Option.some.injEq, Except.error.injEq]
      exact ⟨fun same => ⟨same.2, same.1.symm⟩, fun same => ⟨same.2.symm, same.1⟩⟩

theorem eq_of_feed_refused {item : Item} {error : LineError} {after : Progress}
    (refused : progress.feed order item = (after, some error)) : after = progress := by
  cases item with
  | line text => exact (feed_refused_iff.1 refused).2
  | commit => simp [feed_commit] at refused

end Progress

/-! ## Items in turn -/

/-- The items of which no refusal is reported. -/
def unrefused (items : List Item) (reports : List (Option LineError)) : List Item :=
  ((items.zip reports).filter fun reported => reported.2.isNone).map Prod.fst

theorem unrefused_cons_none (item : Item) (items : List Item)
    (reports : List (Option LineError)) :
    unrefused (item :: items) (none :: reports) = item :: unrefused items reports := rfl

theorem unrefused_cons_some (item : Item) (items : List Item) (error : LineError)
    (reports : List (Option LineError)) :
    unrefused (item :: items) (some error :: reports) = unrefused items reports := rfl

namespace Progress

theorem feedAll_cons (order : Order) (progress : Progress) (item : Item) (items : List Item) :
    progress.feedAll order (item :: items) =
      ((feedAll order (progress.feed order item).1 items).1,
        (progress.feed order item).2 :: (feedAll order (progress.feed order item).1 items).2) := rfl

/-- **A run.** Without its refused lines it ends in the same state, and nothing is refused. -/
theorem feedAll_unrefused (order : Order) (progress : Progress) (items : List Item) :
    progress.feedAll order (unrefused items (progress.feedAll order items).2) =
      ((progress.feedAll order items).1,
        (unrefused items (progress.feedAll order items).2).map fun _ => none) := by
  induction items generalizing progress with
  | nil => rfl
  | cons item items inductionHypothesis =>
      rw [feedAll_cons]
      cases fed : progress.feed order item with
      | mk after report =>
          cases report with
          | none =>
              rw [unrefused_cons_none, feedAll_cons, fed, inductionHypothesis]
              rfl
          | some error =>
              obtain rfl := eq_of_feed_refused fed
              rw [unrefused_cons_some]
              exact inductionHypothesis after

/-- **A refused line leaves no trace.** In every state a line is refused exactly if it cannot be
read, and it leaves the domain, the port, the servers and what is filed as they were; a commit is
never refused. So the items of a run that are not refused lead by themselves to the state in which
the run ends, and none of them is refused then. -/
theorem feedAll_leaves_no_trace (order : Order) (progress : Progress) :
    (∀ text error after, progress.feed order (.line text) = (after, some error) ↔
        progress.readLine order text = .error error ∧ after = progress) ∧
      (progress.feed order .commit).2 = none ∧
      ∀ items, progress.feedAll order (unrefused items (progress.feedAll order items).2) =
        ((progress.feedAll order items).1,
          (unrefused items (progress.feedAll order items).2).map fun _ => none) := by
  refine ⟨fun text error after => feed_refused_iff, ?_, feedAll_unrefused order progress⟩
  rw [feed_commit]

/-- A blank line and a label without an argument are refused between two lines that are read. -/
example :
    ((feedAll .failover ⟨.start "r", .empty⟩
      [.line "nameserver ::1".toList, .line " ".toList, .line "domain".toList,
        .line "domain a.b".toList, .commit]).2.map Option.isSome) =
      [false, true, true, false, false] := by
  decide +kernel

end Progress

end HostResolver.Config
