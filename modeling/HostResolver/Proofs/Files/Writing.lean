import HostResolver.Files.Writing
import HostResolver.Proofs.Files.Looking

/-!
Files that are written.

Owns: what stands at a place behind a change of the tree, that the path of what was opened for
writing leads there, also behind what is written, and that there a file grows at its end and a
device stays as it is.

Does not own: what is written, and what stands in the way.
-/

namespace HostResolver.Files.FileTree

variable {tree : FileTree} {place other : Place} {entry : Entry}

/-! ## Entries -/

theorem lookup_map_self {entries : List (Place × Entry)}
    (present : (entries.lookup place).isSome = true) :
    (entries.map fun old => if old.1 = place then (place, entry) else old).lookup place =
      some entry := by
  induction entries with
  | nil => exact absurd present Bool.false_ne_true
  | cons first rest inductionHypothesis =>
      obtain ⟨found, old⟩ := first
      by_cases same : found = place
      · rw [List.map_cons, if_pos same, List.lookup_cons_self]
      · have differs : (place == found) = false := beq_false_of_ne (Ne.symm same)
        rw [List.lookup_cons, differs] at present
        rw [List.map_cons, if_neg same, List.lookup_cons, differs]
        exact inductionHypothesis present

theorem lookup_map_of_ne (different : other ≠ place) (entries : List (Place × Entry)) :
    (entries.map fun old => if old.1 = place then (place, entry) else old).lookup other =
      entries.lookup other := by
  induction entries with
  | nil => rfl
  | cons first rest inductionHypothesis =>
      obtain ⟨found, old⟩ := first
      by_cases same : found = place
      · have differs : (other == place) = false := beq_false_of_ne different
        subst same
        rw [List.map_cons, if_pos rfl, List.lookup_cons, List.lookup_cons, differs]
        exact inductionHypothesis
      · rw [List.map_cons, if_neg same, List.lookup_cons, List.lookup_cons, inductionHypothesis]

theorem entry?_put_self (below : place ≠ []) :
    entry? (tree.put place entry) place = some entry := by
  unfold entry?
  rw [if_neg below, put]
  cases present : (tree.entries.lookup place).isSome with
  | true => exact lookup_map_self present
  | false =>
      have absent : tree.entries.lookup place = none := Option.isNone_iff_eq_none.1 (by
        rw [← Option.not_isSome, present]
        rfl)
      change (tree.entries ++ [(place, entry)]).lookup place = _
      rw [List.lookup_append, absent, Option.none_or, List.lookup_cons_self]

theorem put_top : (tree.put place entry).top = tree.top := by
  unfold put
  split <;> rfl

theorem put_workplace : (tree.put place entry).workplace = tree.workplace := by
  unfold put
  split <;> rfl

theorem entry?_put_of_ne (different : other ≠ place) :
    entry? (tree.put place entry) other = tree.entry? other := by
  unfold entry?
  split
  · rw [put_top]
  · unfold put
    split
    · exact lookup_map_of_ne different tree.entries
    · have absent : List.lookup other [(place, entry)] = none := by
        rw [List.lookup_cons, beq_false_of_ne different]
        rfl
      rw [List.lookup_append, absent, Option.or_none]

/-! ## Log files -/

/-- What can be written to stands at a place. -/
def HoldsLog (tree : FileTree) (place : Place) : Prop :=
  (∃ bytes access, tree.entry? place = some (.file bytes access)) ∨
    ∃ bytes access, tree.entry? place = some (.device bytes access)

/-- What is written at a place is there behind it: at the end of a file, and nowhere on a device. -/
def Grows (place : Place) (bytes : List UInt8) (before after : FileTree) : Prop :=
  (∃ old access, before.entry? place = some (.file old access) ∧
      after.entry? place = some (.file (old ++ bytes) access)) ∨
    ∃ given access, before.entry? place = some (.device given access) ∧
      after.entry? place = some (.device given access)

theorem HoldsLog.ne_nil (holds : tree.HoldsLog place) : place ≠ [] := by
  rintro rfl
  rcases holds with ⟨bytes, access, held⟩ | ⟨bytes, access, held⟩
  · exact nomatch held
  · exact nomatch held

theorem Grows.holdsLog {bytes : List UInt8} {before after : FileTree}
    (grows : Grows place bytes before after) : after.HoldsLog place := by
  rcases grows with ⟨old, access, _, held⟩ | ⟨given, access, _, held⟩
  · exact Or.inl ⟨_, _, held⟩
  · exact Or.inr ⟨_, _, held⟩

theorem grows_append (holds : tree.HoldsLog place) (bytes : List UInt8) :
    Grows place bytes tree (tree.append place bytes) := by
  rcases holds with ⟨old, access, held⟩ | ⟨given, access, held⟩
  · have below : place ≠ [] := HoldsLog.ne_nil (Or.inl ⟨old, access, held⟩)
    refine Or.inl ⟨old, access, held, ?_⟩
    unfold append
    rw [held]
    exact entry?_put_self below
  · refine Or.inr ⟨given, access, held, ?_⟩
    unfold append
    rw [held]
    exact held

theorem grows_nothing (holds : tree.HoldsLog place) : Grows place [] tree tree := by
  rcases holds with ⟨old, access, held⟩ | ⟨given, access, held⟩
  · exact Or.inl ⟨old, access, held, by rw [List.append_nil, held]⟩
  · exact Or.inr ⟨given, access, held, held⟩

theorem entry?_append_of_ne (different : other ≠ place) (bytes : List UInt8) :
    entry? (tree.append place bytes) other = tree.entry? other := by
  unfold append
  split
  · exact entry?_put_of_ne different
  · rfl

theorem append_workplace (bytes : List UInt8) :
    (tree.append place bytes).workplace = tree.workplace := by
  unfold append
  split
  · exact put_workplace
  · rfl

/-- What is written changes nothing but bytes. -/
theorem sameWays_of_grows {before after : FileTree} {bytes : List UInt8}
    (grows : Grows place bytes before after)
    (others : ∀ other, other ≠ place → after.entry? other = before.entry? other) :
    after.SameWays before := by
  intro found
  by_cases here : found = place
  · subst here
    rcases grows with ⟨old, access, held, later⟩ | ⟨given, access, held, later⟩
    · rw [held, later]
      rfl
    · rw [held, later]
  · rw [others found here]

/-! ## Files that are made -/

/-- A name in a directory is entered all the same behind a file was made elsewhere. -/
theorem enter_put {below : Place} {name : String} (absent : tree.entry? place = none)
    (entered : tree.enter other name = .ok below) (bytes : List UInt8) (access : Access) :
    (tree.put place (.file bytes access)).enter other name = .ok below := by
  have elsewhere : other ≠ place := by
    rintro rfl
    rw [enter, absent] at entered
    cases entered
  rw [enter, entry?_put_of_ne elsewhere]
  rw [enter] at entered
  exact entered

/-- A walk to a place where nothing stood leads there also behind a file was made there. -/
theorem descend_put {bytes : List UInt8} {access : Access}
    {first second : Place → List String → Except FileError Place} {start : Place}
    {names : List String} (absent : tree.entry? place = none) (below : place ≠ [])
    (follows : ∀ other names, first other names = .ok place → second other names = .ok place)
    (walked : tree.descend first start names = .ok place) :
    (tree.put place (.file bytes access)).descend second start names = .ok place := by
  induction names generalizing start with
  | nil => exact walked
  | cons name rest inductionHypothesis =>
      cases firstName tree start name with
      | refused refused =>
          rw [descend_of_enter_error refused] at walked
          cases walked
      | @linked reached target entered linked =>
          have elsewhere : reached ≠ place := by
            rintro rfl
            exact Option.some_ne_none _ (linked.symm.trans absent)
          rw [descend_of_link entered linked] at walked
          rw [descend_of_link (enter_put absent entered bytes access)
            ((entry?_put_of_ne elsewhere).trans linked)]
          exact follows _ _ walked
      -- The new file is no link, so the walk goes on at its place as it did where nothing stood.
      | @direct reached entered direct =>
          have directLater (target : String) :
              entry? (tree.put place (.file bytes access)) reached ≠ some (.link target) := by
            by_cases here : reached = place
            · subst here
              simp [entry?_put_self below]
            · rw [entry?_put_of_ne here]
              exact direct target
          rw [descend_of_enter entered direct] at walked
          rw [descend_of_enter (enter_put absent entered bytes access) directLater]
          exact inductionHypothesis walked

theorem walk_put {bytes : List UInt8} {access : Access} {links : Nat} {start : Place}
    {names : List String} (absent : tree.entry? place = none) (below : place ≠ [])
    (walked : tree.walk links start names = .ok place) :
    (tree.put place (.file bytes access)).walk links start names = .ok place := by
  induction links generalizing start names with
  | zero => exact descend_put absent below (fun _ _ impossible => impossible) walked
  | succ links inductionHypothesis =>
      exact descend_put absent below (fun _ _ => inductionHypothesis) walked

theorem locate_put {bytes : List UInt8} {access : Access} {text : String}
    (absent : tree.entry? place = none) (below : place ≠ [])
    (located : tree.locate text = .ok place) :
    (tree.put place (.file bytes access)).locate text = .ok place := by
  unfold locate at located ⊢
  cases checked : checkPath text with
  | error error =>
      rw [checked] at located
      exact nomatch located
  | ok passed =>
      rw [checked] at located
      simp only [put_workplace] at located ⊢
      exact walk_put absent below located

/-- A path leads to what can be written to. -/
structure LeadsToLog (tree : FileTree) (text : String) (place : Place) : Prop where
  located : tree.locate text = .ok place
  holds : tree.HoldsLog place

/-- What is written changes no way. -/
theorem LeadsToLog.of_grows {before after : FileTree} {text : String} {bytes : List UInt8}
    (leads : before.LeadsToLog text place) (grows : Grows place bytes before after)
    (others : ∀ other, other ≠ place → after.entry? other = before.entry? other)
    (sameStart : after.workplace = before.workplace) : after.LeadsToLog text place where
  located := (locate_congr (sameWays_of_grows grows others) sameStart text).trans leads.located
  holds := grows.holdsLog

/-! ## Files that are opened -/

/-- What was opened stood at the place of its path, or was made there. -/
theorem openForAppend_cases {text : String} {later : FileTree}
    (opened : tree.openForAppend text = .ok (place, later)) :
    tree.locate text = .ok place ∧
      ((later = tree ∧ tree.HoldsLog place) ∨
        (tree.entry? place = none ∧ later = tree.put place (.file [] .full))) := by
  unfold openForAppend at opened
  cases located : tree.locate text with
  | error error =>
      rw [located] at opened
      exact nomatch opened
  | ok found =>
      simp only [located] at opened
      cases held : tree.entry? found with
      | none =>
          simp only [held] at opened
          cases takes : tree.takesEntries found.dropLast with
          | false => simp [takes] at opened
          | true =>
              rw [takes, if_pos rfl] at opened
              obtain ⟨rfl, rfl⟩ := Prod.mk.inj (Except.ok.inj opened)
              exact ⟨rfl, Or.inr ⟨held, rfl⟩⟩
      | some entry =>
          simp only [held] at opened
          cases entry with
          | directory access => simp at opened
          | link target => simp at opened
          | file bytes access =>
              cases writable : access.writes with
              | false => simp [writable] at opened
              | true =>
                  simp only [writable, if_true] at opened
                  obtain ⟨rfl, rfl⟩ := Prod.mk.inj (Except.ok.inj opened)
                  exact ⟨rfl, Or.inl ⟨rfl, Or.inl ⟨bytes, access, held⟩⟩⟩
          | device bytes access =>
              cases writable : access.writes with
              | false => simp [writable] at opened
              | true =>
                  simp only [writable, if_true] at opened
                  obtain ⟨rfl, rfl⟩ := Prod.mk.inj (Except.ok.inj opened)
                  exact ⟨rfl, Or.inl ⟨rfl, Or.inr ⟨bytes, access, held⟩⟩⟩

/-- The path of what was opened for writing leads there. -/
theorem leadsToLog_of_openForAppend {text : String} {later : FileTree}
    (opened : tree.openForAppend text = .ok (place, later)) :
    later.LeadsToLog text place ∧ later.workplace = tree.workplace := by
  obtain ⟨located, ⟨rfl, holds⟩ | ⟨absent, rfl⟩⟩ := openForAppend_cases opened
  · exact ⟨⟨located, holds⟩, rfl⟩
  · have below : place ≠ [] := by
      rintro rfl
      exact nomatch absent
    exact ⟨⟨locate_put absent below located, Or.inl ⟨[], .full, entry?_put_self below⟩⟩,
      put_workplace⟩

theorem exists_of_bind_eq_ok {first result : Type} {start : Except FileError first}
    {next : first → Except FileError result} {value : result}
    (ran : (start >>= next) = .ok value) :
    ∃ between, start = .ok between ∧ next between = .ok value := by
  cases start with
  | error error => cases ran
  | ok between => exact ⟨between, rfl, ran⟩

theorem makeDirectory_workplace {text : String} {later : FileTree}
    (made : tree.makeDirectory text = .ok later) : later.workplace = tree.workplace := by
  unfold makeDirectory at made
  obtain ⟨_, _, made⟩ := exists_of_bind_eq_ok made
  obtain ⟨above, _, made⟩ := exists_of_bind_eq_ok made
  obtain ⟨place, _, made⟩ := exists_of_bind_eq_ok made
  dsimp only at made
  split at made
  · cases made
  · split at made
    · cases made
    · rw [← Except.ok.inj made]
      exact put_workplace

theorem ensureDirectory_workplace (tree : FileTree) (text : String) :
    (tree.ensureDirectory text).1.workplace = tree.workplace := by
  unfold ensureDirectory
  cases made : tree.makeDirectory text with
  | error error => rfl
  | ok later => exact makeDirectory_workplace made

theorem makeDirectories_workplace (tree : FileTree) (root : String) (names : List String) :
    (tree.makeDirectories root names).1.workplace = tree.workplace := by
  induction names with
  | nil => rfl
  | cons name above inductionHypothesis =>
      have sameAbove : (if tree.leads (⟨root, above.reverse⟩ : Path).text then (tree, none)
          else makeDirectories tree root above).1.workplace = tree.workplace := by
        split
        · rfl
        · exact inductionHypothesis
      have sameHere (made : FileTree × Option PathError) (text : String) :
          (if made.2.any fun refusal => refusal.error != .alreadyExists then made
            else made.1.ensureDirectory text).1.workplace = made.1.workplace := by
        split
        · rfl
        · exact ensureDirectory_workplace made.1 text
      rw [makeDirectories]
      exact (sameHere _ _).trans sameAbove

/-- Behind opening a log file its path leads to it, and the program works where it did. -/
theorem leadsToLog_of_openLogFile {path : Path} {later : FileTree}
    (opened : tree.openLogFile path = (.ok place, later)) :
    later.LeadsToLog path.text place ∧ later.workplace = tree.workplace := by
  unfold openLogFile at opened
  have sameStart := makeDirectories_workplace tree path.root path.names.dropLast.reverse
  cases made : tree.makeDirectories path.root path.names.dropLast.reverse with
  | mk between refusal =>
      rw [made] at sameStart
      cases refusal with
      | some refusal => simp [made] at opened
      | none =>
          simp only [made] at opened
          cases appended : between.openForAppend path.text with
          | error error => simp [appended] at opened
          | ok found =>
              obtain ⟨reached, last⟩ := found
              simp only [appended, Prod.mk.injEq, Except.ok.injEq] at opened
              obtain ⟨rfl, rfl⟩ := opened
              obtain ⟨leads, same⟩ := leadsToLog_of_openForAppend appended
              exact ⟨leads, same.trans sameStart⟩

end HostResolver.Files.FileTree
