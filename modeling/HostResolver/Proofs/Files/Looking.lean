import HostResolver.Files.Tree
import HostResolver.Proofs.Text.Fields

/-!
What paths lead to.

Owns: the names of a path against its text, how long the text is, and for which causes it cannot be
told what a path leads to: by cases of one name, by induction along the names between two links, and
by induction on the links that may still be followed.

Does not own: what is reported of such a path.
-/

namespace HostResolver.Files

open HostResolver.Text

/-! ## Texts of paths -/

theorem text_of_ne_nil {names : List String} (nonempty : names ≠ []) :
    (⟨"", names⟩ : Path).text = "/".intercalate names := by
  have somewhere : ("".isEmpty && names.isEmpty) = false := by simpa using nonempty
  rw [Path.text, somewhere, if_neg Bool.false_ne_true, String.empty_append]

/-- Each name but the last takes one more byte, that of the slash behind it. -/
theorem size_intercalate_cons (name : String) {names : List String} (nonempty : names ≠ []) :
    ("/".intercalate (name :: names)).utf8ByteSize =
      name.utf8ByteSize + 1 + ("/".intercalate names).utf8ByteSize := by
  rw [String.intercalate_cons_of_ne_nil nonempty, String.utf8ByteSize_append,
    String.utf8ByteSize_append]
  rfl

theorem not_mem_intercalate {character : Char} (noSlash : character ≠ '/') {names : List String}
    (absent : ∀ name ∈ names, character ∉ name.toList) :
    character ∉ ("/".intercalate names).toList := by
  induction names with
  | nil => simp
  | cons name others inductionHypothesis =>
      obtain ⟨here, later⟩ := List.forall_mem_cons.1 absent
      cases others with
      | nil => rwa [String.intercalate_singleton]
      | cons next rest =>
          rw [String.intercalate_cons_cons, String.toList_append, String.toList_append,
            List.mem_append, List.mem_append, not_or, not_or]
          exact ⟨⟨here, by simpa using noSlash⟩, inductionHypothesis later⟩

/-- Names without slashes are read again behind they were put together. -/
theorem rawNames_intercalate {names : List String} (nonempty : names ≠ [])
    (whole : ∀ name ∈ names, '/' ∉ name.toList) :
    Path.rawNames ("/".intercalate names) = names := by
  induction names with
  | nil => exact absurd rfl nonempty
  | cons name others inductionHypothesis =>
      obtain ⟨here, later⟩ := List.forall_mem_cons.1 whole
      cases others with
      | nil =>
          rw [String.intercalate_singleton, Path.rawNames, fields_of_not_mem here,
            List.map_singleton, String.ofList_toList]
      | cons next rest =>
          have goesOn := inductionHypothesis (List.cons_ne_nil _ _) later
          rw [Path.rawNames] at goesOn ⊢
          rw [String.intercalate_cons_cons, String.toList_append, String.toList_append,
            List.append_assoc, show "/".toList = ['/'] from rfl, List.singleton_append,
            fields_append_cons, fields_of_not_mem here, List.map_append, goesOn, List.map_singleton,
            String.ofList_toList, List.singleton_append]

theorem checkPath_of_short {text : String} (noNul : Char.ofNat 0 ∉ text.toList)
    (nonempty : text.isEmpty = false) (short : isLongPath text = false) :
    checkPath text = .ok () := by
  have contained : text.contains (Char.ofNat 0) = false := by
    rw [String.contains_char_eq]
    exact decide_eq_false noNul
  rw [checkPath, contained, nonempty, short]
  rfl

namespace FileTree

variable {tree : FileTree} {place below : Place} {name text : String} {error : FileError}

/-! ## One name -/

/-- What bars the way from a place along a name, each with its error. -/
inductive Bars (tree : FileTree) (place : Place) (name : String) : FileError → Prop where
  | missing (absent : tree.entry? place = none) : Bars tree place name .notFound
  | noDirectory {entry : Entry} (found : tree.entry? place = some entry)
      (differs : ∀ access, entry ≠ .directory access) : Bars tree place name .notDirectory
  | closed {access : Access} (found : tree.entry? place = some (.directory access))
      (unsearched : access.searches = false) : Bars tree place name .accessDenied
  | tooLong (isLong : isLongName name = true) : Bars tree place name .nameTooLong

theorem enter_of_directory {access : Access}
    (found : tree.entry? place = some (.directory access)) :
    tree.enter place name =
      if name.isEmpty then .ok place
      else if !access.searches then .error .accessDenied
      else if name = "." then .ok place
      else if name = ".." then .ok place.dropLast
      else if isLongName name then .error .nameTooLong
      else .ok (place ++ [name]) := by
  rw [enter, found]

theorem enter_of_other {entry : Entry} (found : tree.entry? place = some entry)
    (differs : ∀ access, entry ≠ .directory access) :
    tree.enter place name = .error .notDirectory := by
  unfold enter
  cases entry with
  | directory access => exact absurd rfl (differs access)
  | _ => rw [found]

theorem bars_of_enter (refused : tree.enter place name = .error error) :
    Bars tree place name error := by
  cases found : tree.entry? place with
  | none =>
      rw [enter, found] at refused
      rw [← Except.error.inj refused]
      exact .missing found
  | some entry =>
      by_cases isDirectory : ∃ access, entry = .directory access
      · obtain ⟨access, rfl⟩ := isDirectory
        rw [enter_of_directory found] at refused
        by_cases stays : name.isEmpty = true
        · simp [stays] at refused
        cases searched : access.searches with
        | false =>
            simp only [stays, searched, Bool.false_eq_true, Bool.not_false, if_false, if_true,
              Except.error.injEq] at refused
            rw [← refused]
            exact .closed found searched
        | true =>
            by_cases point : name = "."
            · simp [searched, point] at refused
            by_cases points : name = ".."
            · simp [searched, points] at refused
            by_cases isLong : isLongName name = true
            · simp only [stays, searched, point, points, isLong, Bool.false_eq_true, Bool.not_true,
                if_false, if_true, Except.error.injEq] at refused
              rw [← refused]
              exact .tooLong isLong
            · simp [stays, searched, point, points, isLong] at refused
      · have differs (access : Access) : entry ≠ .directory access :=
          fun same => isDirectory ⟨access, same⟩
        rw [← Except.error.inj ((enter_of_other found differs).symm.trans refused)]
        exact .noDirectory found differs

/-! ## Names in turn -/

variable {follow : Place → List String → Except FileError Place}

/-- A name that leads to no link is left behind. -/
theorem descend_of_enter (entered : tree.enter place name = .ok below)
    (direct : ∀ target, tree.entry? below ≠ some (.link target)) (names : List String) :
    tree.descend follow place (name :: names) = tree.descend follow below names := by
  rw [descend, entered]
  cases found : tree.entry? below with
  | none => simp only [found]
  | some entry =>
      cases entry with
      | link target => exact absurd found (direct target)
      | _ => simp only [found]

theorem descend_of_link {target : String} (entered : tree.enter place name = .ok below)
    (linked : tree.entry? below = some (.link target)) (names : List String) :
    tree.descend follow place (name :: names) =
      follow (startOf target below.dropLast) (Path.rawNames target ++ names) := by
  rw [descend, entered]
  simp only [linked]

theorem descend_of_enter_error (refused : tree.enter place name = .error error)
    (names : List String) : tree.descend follow place (name :: names) = .error error := by
  rw [descend, refused]

/-- What the first name of some leads to: nowhere, to a link, or to something else. -/
inductive FirstName (tree : FileTree) (place : Place) (name : String) : Prop where
  | refused {error : FileError} (refused : tree.enter place name = .error error)
  | linked {below : Place} {target : String} (entered : tree.enter place name = .ok below)
      (linked : tree.entry? below = some (.link target))
  | direct {below : Place} (entered : tree.enter place name = .ok below)
      (direct : ∀ target, tree.entry? below ≠ some (.link target))

theorem firstName (tree : FileTree) (place : Place) (name : String) :
    FirstName tree place name := by
  cases entered : tree.enter place name with
  | error error => exact .refused entered
  | ok below =>
      by_cases isLink : ∃ target, tree.entry? below = some (.link target)
      · obtain ⟨target, linked⟩ := isLink
        exact .linked entered linked
      · exact .direct entered fun target linked => isLink ⟨target, linked⟩

/-- A walk ends at the first name that cannot be entered. -/
theorem walk_of_enter_error (refused : tree.enter place name = .error error) (links : Nat)
    (names : List String) : tree.walk links place (name :: names) = .error error := by
  cases links with
  | zero => exact descend_of_enter_error refused names
  | succ links => exact descend_of_enter_error refused names

/-- From a place, names lead to another place with some names left, links on the way followed. -/
inductive ComesTo (tree : FileTree) : Place → List String → Place → List String → Prop where
  | here (place : Place) (names : List String) : ComesTo tree place names place names
  | enters {place below last : Place} {name : String} {names left : List String}
      (entered : tree.enter place name = .ok below)
      (direct : ∀ target, tree.entry? below ≠ some (.link target))
      (goesOn : ComesTo tree below names last left) : ComesTo tree place (name :: names) last left
  | follows {place below last : Place} {name target : String} {names left : List String}
      (entered : tree.enter place name = .ok below)
      (linked : tree.entry? below = some (.link target))
      (goesOn : ComesTo tree (startOf target below.dropLast) (Path.rawNames target ++ names) last
        left) : ComesTo tree place (name :: names) last left

/-- A name on the way is barred. -/
def IsBarred (tree : FileTree) (place : Place) (names : List String) (error : FileError) : Prop :=
  ∃ last name left, tree.ComesTo place names last (name :: left) ∧ Bars tree last name error

/-- A walk that fails between two links is barred there, unless it fails behind the second one. -/
theorem isBarred_of_descend {names : List String}
    (behind : ∀ place names, follow place names = .error error →
      tree.IsBarred place names error ∨ error = .tooManyLinks)
    (refused : tree.descend follow place names = .error error) :
    tree.IsBarred place names error ∨ error = .tooManyLinks := by
  induction names generalizing place with
  | nil => exact nomatch refused
  | cons name others inductionHypothesis =>
      cases firstName tree place name with
      | refused barred =>
          rw [descend_of_enter_error barred] at refused
          rw [← Except.error.inj refused]
          exact Or.inl ⟨place, name, others, .here _ _, bars_of_enter barred⟩
      -- What comes behind a link is the walk of fewer links, of which `behind` tells.
      | linked entered linked =>
          rw [descend_of_link entered linked] at refused
          refine (behind _ _ refused).imp_left ?_
          rintro ⟨last, barred, left, goesOn, bars⟩
          exact ⟨last, barred, left, .follows entered linked goesOn, bars⟩
      | direct entered direct =>
          rw [descend_of_enter entered direct] at refused
          refine (inductionHypothesis refused).imp_left ?_
          rintro ⟨last, barred, left, goesOn, bars⟩
          exact ⟨last, barred, left, .enters entered direct goesOn, bars⟩

/-- **A walk fails at one of the names on it**, those of links included, or for too many links. -/
theorem isBarred_of_walk {links : Nat} {names : List String}
    (refused : tree.walk links place names = .error error) :
    tree.IsBarred place names error ∨ error = .tooManyLinks := by
  induction links generalizing place names with
  | zero =>
      exact isBarred_of_descend (fun _ _ noMore => Or.inr (Except.error.inj noMore).symm) refused
  | succ links inductionHypothesis =>
      exact isBarred_of_descend (fun _ _ => inductionHypothesis) refused

/-! ### Walks in trees alike -/

/-- What a walk sees of an entry: everything but the bytes. -/
def emptied : Entry → Entry
  | .file _ access => .file [] access
  | .directory access => .directory access
  | .link target => .link target
  | .device _ access => .device [] access

/-- At every place of two trees stands the same but for the bytes. -/
def SameWays (other tree : FileTree) : Prop :=
  ∀ place, (other.entry? place).map emptied = (tree.entry? place).map emptied

section Congruence

variable {other : FileTree} (same : other.SameWays tree)

include same

theorem enter_congr (place : Place) (name : String) :
    other.enter place name = tree.enter place name := by
  have alike := same place
  cases found : tree.entry? place with
  | none =>
      rw [found, Option.map_none, Option.map_eq_none_iff] at alike
      rw [enter, enter, found, alike]
  | some entry =>
      rw [found, Option.map_some, Option.map_eq_some_iff] at alike
      obtain ⟨standing, otherFound, alike⟩ := alike
      rw [enter, enter, found, otherFound]
      cases entry <;> cases standing <;> simp_all [emptied]

theorem entry?_eq_link_iff {target : String} :
    other.entry? place = some (.link target) ↔ tree.entry? place = some (.link target) := by
  have alike := same place
  cases found : tree.entry? place with
  | none =>
      rw [found, Option.map_none, Option.map_eq_none_iff] at alike
      rw [alike]
  | some entry =>
      rw [found, Option.map_some, Option.map_eq_some_iff] at alike
      obtain ⟨standing, otherFound, alike⟩ := alike
      rw [otherFound]
      cases entry <;> cases standing <;> simp_all [emptied]

theorem descend_congr {first second : Place → List String → Except FileError Place}
    (follows : ∀ place names, first place names = second place names) (place : Place)
    (names : List String) : other.descend first place names = tree.descend second place names := by
  induction names generalizing place with
  | nil => rfl
  | cons name others inductionHypothesis =>
      have sameEnter := enter_congr same place name
      cases firstName tree place name with
      | refused refused =>
          rw [descend_of_enter_error refused, descend_of_enter_error (sameEnter.trans refused)]
      | linked entered linked =>
          rw [descend_of_link entered linked, descend_of_link (sameEnter.trans entered)
            ((entry?_eq_link_iff same).2 linked), follows]
      | direct entered direct =>
          rw [descend_of_enter entered direct, descend_of_enter (sameEnter.trans entered)
            fun target linked => direct target ((entry?_eq_link_iff same).1 linked)]
          exact inductionHypothesis _

/-- A walk sees of a tree only what stands at places. -/
theorem walk_congr (links : Nat) (place : Place) (names : List String) :
    other.walk links place names = tree.walk links place names := by
  induction links generalizing place names with
  | zero => exact descend_congr same (fun _ _ => rfl) place names
  | succ links inductionHypothesis =>
      exact descend_congr same inductionHypothesis place names

theorem locate_congr (sameStart : other.workplace = tree.workplace) (text : String) :
    other.locate text = tree.locate text := by
  rw [locate, locate, sameStart]
  simp only [walk_congr same]

end Congruence

/-! ## Paths -/

theorem locate_of_short (noNul : Char.ofNat 0 ∉ text.toList) (nonempty : text.isEmpty = false)
    (short : isLongPath text = false) :
    tree.locate text =
      tree.walk linkLimit (startOf text tree.workplace) (Path.rawNames text) := by
  rw [locate, checkPath_of_short noNul nonempty short]

theorem status_of_locate {entry : Entry} (located : tree.locate text = .ok place)
    (found : tree.entry? place = some entry) : tree.status text = .ok (place, entry) := by
  rw [status, located]
  simp only [found]

theorem look_of_status {found : Place × Entry} (standing : tree.status text = .ok found) :
    tree.look text = .ok (some found) := by
  rw [look, standing]

theorem look_of_absent (refused : tree.status text = .error error)
    (isAbsent : error.isAbsence = true) : tree.look text = .ok none := by
  rw [look, refused]
  simp only [isAbsent, if_true]

theorem look_of_error (refused : tree.status text = .error error)
    (isPresent : error.isAbsence = false) : tree.look text = .error ⟨text, error⟩ := by
  rw [look, refused]
  simp only [isPresent, Bool.false_eq_true, if_false]

theorem locate_of_longPath (noNul : Char.ofNat 0 ∉ text.toList) (isLong : isLongPath text = true) :
    tree.locate text = .error .nameTooLong := by
  have contained : text.contains (Char.ofNat 0) = false := by
    rw [String.contains_char_eq]
    exact decide_eq_false noNul
  have nonempty : text.isEmpty = false := by
    cases empty : text.isEmpty with
    | false => rfl
    | true =>
        rw [String.isEmpty_iff.1 empty] at isLong
        exact absurd isLong (by decide)
  rw [locate, checkPath, contained, nonempty, isLong]
  rfl

theorem status_of_locate_error (refused : tree.locate text = .error error) :
    tree.status text = .error error := by
  rw [status, refused]

/-- A path leads to a place with some of its names left, or of those of a link. -/
def IsOnWay (tree : FileTree) (text : String) (place : Place) (left : List String) : Prop :=
  tree.ComesTo (startOf text tree.workplace) (Path.rawNames text) place left

/-- What stands in the way of telling what a path leads to: a limit, or a directory on the way that
may not be searched. -/
inductive Hides (tree : FileTree) (text : String) : FileError → Prop where
  | longPath (isLong : isLongPath text = true) : Hides tree text .nameTooLong
  | longName {place : Place} {name : String} {left : List String}
      (onWay : tree.IsOnWay text place (name :: left)) (isLong : isLongName name = true) :
      Hides tree text .nameTooLong
  | closed {place : Place} {name : String} {left : List String} {access : Access}
      (onWay : tree.IsOnWay text place (name :: left))
      (found : tree.entry? place = some (.directory access))
      (unsearched : access.searches = false) : Hides tree text .accessDenied

theorem Hides.cases (hides : Hides tree text error) :
    error = .nameTooLong ∨ error = .accessDenied := by
  cases hides with
  | longPath => exact Or.inl rfl
  | longName => exact Or.inl rfl
  | closed => exact Or.inr rfl

/-- An error on the way says that nothing is there, or that it cannot be told. -/
theorem isAbsence_or_hides_of_bars {left : List String}
    (onWay : tree.IsOnWay text place (name :: left)) (bars : Bars tree place name error) :
    error.isAbsence = true ∨ Hides tree text error := by
  cases bars with
  | missing => exact Or.inl rfl
  | noDirectory => exact Or.inl rfl
  | closed found unsearched => exact Or.inr (.closed onWay found unsearched)
  | tooLong isLong => exact Or.inr (.longName onWay isLong)

theorem isAbsence_or_hides_of_locate (refused : tree.locate text = .error error) :
    error.isAbsence = true ∨ Hides tree text error := by
  unfold locate checkPath at refused
  by_cases nul : text.contains (Char.ofNat 0) = true
  · simp only [nul, if_true, Except.error.injEq] at refused
    exact Or.inl (refused ▸ rfl)
  by_cases empty : text.isEmpty = true
  · simp only [nul, empty, Bool.false_eq_true, if_false, if_true, Except.error.injEq] at refused
    exact Or.inl (refused ▸ rfl)
  by_cases isLong : isLongPath text = true
  · simp only [nul, empty, isLong, Bool.false_eq_true, if_false, if_true,
      Except.error.injEq] at refused
    exact Or.inr (refused ▸ .longPath isLong)
  · simp only [nul, empty, isLong, Bool.false_eq_true, if_false] at refused
    rcases isBarred_of_walk refused with ⟨last, name, left, onWay, bars⟩ | tooMany
    · exact isAbsence_or_hides_of_bars onWay bars
    · exact Or.inl (tooMany ▸ rfl)

theorem isAbsence_or_hides_of_status (refused : tree.status text = .error error) :
    error.isAbsence = true ∨ Hides tree text error := by
  cases located : tree.locate text with
  | ok place =>
      cases found : tree.entry? place with
      | some entry => simp [status_of_locate located found] at refused
      | none =>
          rw [status, located] at refused
          simp only [found, Except.error.injEq] at refused
          exact Or.inl (refused ▸ rfl)
  | error cause =>
      rw [status, located] at refused
      rw [← Except.error.inj refused]
      exact isAbsence_or_hides_of_locate located

/-- **It cannot be told what a path leads to** only for a limit or for a directory on the way that
may not be searched. -/
theorem hides_of_look {refusal : PathError} (looked : tree.look text = .error refusal) :
    refusal.path = text ∧ Hides tree text refusal.error := by
  cases standing : tree.status text with
  | ok found => simp [look_of_status standing] at looked
  | error error =>
      cases isAbsent : error.isAbsence with
      | true => exact nomatch (look_of_absent standing isAbsent).symm.trans looked
      | false =>
          rw [look_of_error standing isAbsent] at looked
          rw [← Except.error.inj looked]
          refine ⟨rfl, (isAbsence_or_hides_of_status standing).resolve_left ?_⟩
          rw [isAbsent]
          exact Bool.false_ne_true

/-! ## Files -/

theorem isFile_of_look_error {refusal : PathError} (looked : tree.look text = .error refusal) :
    tree.isFile text = .error refusal := by
  rw [isFile, looked]
  rfl

theorem look_of_isFile_error {refusal : PathError} (refused : tree.isFile text = .error refusal) :
    tree.look text = .error refusal := by
  cases looked : tree.look text with
  | error other => rw [Except.error.inj ((isFile_of_look_error looked).symm.trans refused)]
  | ok found =>
      rw [isFile, looked] at refused
      exact nomatch refused

theorem isFile_of_status {entry : Entry} (standing : tree.status text = .ok (place, entry)) :
    tree.isFile text = .ok entry.isFile := by
  rw [isFile, look_of_status standing]
  rfl

theorem exists_status_of_isFile (counts : tree.isFile text = .ok true) :
    ∃ place bytes access, tree.status text = .ok (place, .file bytes access) := by
  cases standing : tree.status text with
  | error error =>
      rw [isFile] at counts
      cases isAbsent : error.isAbsence with
      | true =>
          rw [look_of_absent standing isAbsent] at counts
          exact nomatch counts
      | false =>
          rw [look_of_error standing isAbsent] at counts
          exact nomatch counts
  | ok found =>
      obtain ⟨place, entry⟩ := found
      rw [isFile_of_status standing, Except.ok.injEq] at counts
      cases entry with
      | file bytes access => exact ⟨place, bytes, access, rfl⟩
      | _ => exact absurd counts Bool.false_ne_true

theorem read_of_status {entry : Entry} (standing : tree.status text = .ok (place, entry)) :
    tree.read text = (contents entry).mapError fun error => ⟨text, error⟩ := by
  rw [read, standing]
  rfl

/-- A path leads to the bytes of the file at its place, if it may be read. -/
theorem bytes?_of_status {path : Path} {bytes : List UInt8} {access : Access}
    (standing : tree.status path.text = .ok (place, .file bytes access))
    (readable : access.reads = true) : tree.bytes? path = .ok (some bytes) := by
  refine bytes?_eq_some_iff.2 ⟨isFile_of_status standing, ?_⟩
  rw [read_of_status standing, contents, if_pos readable]
  rfl

/-- A path within the limits leads to the bytes of the file that its names lead to. -/
theorem bytes?_of_walk {path : Path} {bytes : List UInt8} {access : Access}
    (noNul : Char.ofNat 0 ∉ path.text.toList) (nonempty : path.text.isEmpty = false)
    (short : isLongPath path.text = false)
    (walked : tree.walk linkLimit (startOf path.text tree.workplace) (Path.rawNames path.text) =
      .ok place)
    (found : tree.entry? place = some (.file bytes access)) (readable : access.reads = true) :
    tree.bytes? path = .ok (some bytes) :=
  bytes?_of_status
    (status_of_locate ((locate_of_short noNul nonempty short).trans walked) found) readable

theorem bytes?_of_look_error {path : Path} {refusal : PathError}
    (looked : tree.look path.text = .error refusal) : tree.bytes? path = .error refusal :=
  bytes?_eq_error_iff.2 (Or.inl (isFile_of_look_error looked))

/-- Why the system refuses a path that is looked at, with its error: it hides what is there, or it
does not open the file or the directory that is there. -/
inductive Refuses (tree : FileTree) (path : Path) : FileError → Prop where
  | hidden {error : FileError} (looked : tree.look path.text = .error ⟨path.text, error⟩)
      (hides : Hides tree path.text error) : Refuses tree path error
  | unreadable {place : Place} {bytes : List UInt8} {access : Access}
      (standing : tree.status path.text = .ok (place, .file bytes access))
      (closed : access.reads = false) : Refuses tree path .accessDenied
  | unlistable {place : Place} {access : Access}
      (standing : tree.status path.text = .ok (place, .directory access))
      (closed : access.reads = false) : Refuses tree path .accessDenied

/-- The system refuses a path for a limit or for its protection. -/
theorem Refuses.cases {path : Path} (refuses : Refuses tree path error) :
    error = .nameTooLong ∨ error = .accessDenied := by
  cases refuses with
  | hidden looked hides => exact hides.cases
  | unreadable => exact Or.inr rfl
  | unlistable => exact Or.inr rfl

theorem Refuses.kind {path : Path} (refuses : Refuses tree path error) :
    error.kind = "OSError" ∨ error.kind = "PermissionError" := by
  rcases refuses.cases with rfl | rfl
  · exact Or.inl rfl
  · exact Or.inr rfl

theorem refuses_of_look {path : Path} {refusal : PathError}
    (looked : tree.look path.text = .error refusal) :
    ∃ error, Refuses tree path error ∧ refusal = ⟨path.text, error⟩ := by
  obtain ⟨shown, error⟩ := refusal
  obtain ⟨same, hides⟩ := hides_of_look looked
  dsimp only at same hides
  subst same
  exact ⟨error, .hidden looked hides, rfl⟩

theorem refuses_of_bytes? {path : Path} {refusal : PathError}
    (refused : tree.bytes? path = .error refusal) :
    ∃ error, Refuses tree path error ∧ refusal = ⟨path.text, error⟩ := by
  rcases bytes?_eq_error_iff.1 refused with unseen | ⟨isFile, unopened⟩
  · exact refuses_of_look (look_of_isFile_error unseen)
  · obtain ⟨place, bytes, access, standing⟩ := exists_status_of_isFile isFile
    rw [read_of_status standing, contents] at unopened
    cases readable : access.reads with
    | true =>
        rw [readable, if_pos rfl] at unopened
        exact nomatch unopened
    | false =>
        rw [readable, if_neg Bool.false_ne_true] at unopened
        exact ⟨.accessDenied, .unreadable standing readable, (Except.error.inj unopened).symm⟩

end FileTree

end HostResolver.Files
