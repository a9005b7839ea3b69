import HostResolver.Proofs.Files.Looking
import Mathlib.Data.List.Nodup

/-!
Listing of directories.

Owns: that what stands at a place, and so where a path leads, does not depend on the order in which
directories list their entries, as long as no two entries stand at one place; and that the regular
files of a directory are listed once each, in increasing order of their names, unless the system
refuses to tell what an entry is.

Does not own: what is read of the files.
-/

namespace HostResolver.Files.FileTree

/-! ## Trees in another order -/

/-- No two entries of a tree stand at one place, so the names in a directory are distinct. -/
def HasDistinctPlaces (tree : FileTree) : Prop := (tree.entries.map Prod.fst).Nodup

instance (tree : FileTree) : Decidable tree.HasDistinctPlaces := by
  unfold HasDistinctPlaces
  infer_instance

/-- A tree is another one whose directories list their entries in whichever order. -/
structure Reorders (other tree : FileTree) : Prop where
  entries : other.entries.Perm tree.entries
  workplace : other.workplace = tree.workplace
  top : other.top = tree.top

variable {tree other : FileTree} {directory : Path} {place : Place} {name text : String}

theorem Reorders.distinct (reordered : other.Reorders tree) (distinct : tree.HasDistinctPlaces) :
    other.HasDistinctPlaces :=
  (reordered.entries.map Prod.fst).nodup_iff.2 distinct

theorem lookup_eq_some_iff_mem {entries : List (Place × Entry)} {entry : Entry}
    (distinct : (entries.map Prod.fst).Nodup) :
    entries.lookup place = some entry ↔ (place, entry) ∈ entries := by
  induction entries with
  | nil => simp
  | cons first rest inductionHypothesis =>
      obtain ⟨found, held⟩ := first
      obtain ⟨absent, later⟩ := List.nodup_cons.1 distinct
      rw [List.lookup_cons, List.mem_cons, Prod.mk.injEq]
      by_cases same : place = found
      · subst same
        have notLater : (place, entry) ∉ rest :=
          fun member => absent (List.mem_map.2 ⟨_, member, rfl⟩)
        simp [notLater, eq_comm]
      · rw [beq_false_of_ne same]
        simp [same, inductionHypothesis later]

theorem entry?_eq_some_iff_mem {entry : Entry} (distinct : tree.HasDistinctPlaces)
    (below : place ≠ []) : tree.entry? place = some entry ↔ (place, entry) ∈ tree.entries := by
  unfold entry?
  rw [if_neg below]
  exact lookup_eq_some_iff_mem distinct

theorem entry?_of_reorders (reordered : other.Reorders tree) (distinct : tree.HasDistinctPlaces)
    (place : Place) : other.entry? place = tree.entry? place := by
  by_cases atTop : place = []
  · unfold entry?
    rw [if_pos atTop, if_pos atTop, reordered.top]
  · apply Option.ext
    intro entry
    rw [entry?_eq_some_iff_mem (reordered.distinct distinct) atTop,
      entry?_eq_some_iff_mem distinct atTop]
    exact reordered.entries.mem_iff

theorem status_of_reorders (reordered : other.Reorders tree) (distinct : tree.HasDistinctPlaces)
    (text : String) : other.status text = tree.status text := by
  have same := entry?_of_reorders reordered distinct
  have sameWays : other.SameWays tree := fun place => congrArg (Option.map emptied) (same place)
  rw [status, status, locate_congr sameWays reordered.workplace]
  simp only [same]

theorem look_of_reorders (reordered : other.Reorders tree) (distinct : tree.HasDistinctPlaces)
    (text : String) : other.look text = tree.look text := by
  rw [look, look, status_of_reorders reordered distinct]

theorem isFile_of_reorders (reordered : other.Reorders tree) (distinct : tree.HasDistinctPlaces)
    (text : String) : other.isFile text = tree.isFile text := by
  rw [isFile, isFile, look_of_reorders reordered distinct]

theorem read_of_reorders (reordered : other.Reorders tree) (distinct : tree.HasDistinctPlaces)
    (text : String) : other.read text = tree.read text := by
  rw [read, read, status_of_reorders reordered distinct]

/-! ## Names in a directory -/

theorem eq_append_of_getLast? {found : Place} (above : found.dropLast = place)
    (last : found.getLast? = some name) : found = place ++ [name] := by
  obtain ⟨front, rfl⟩ := List.getLast?_eq_some_iff.1 last
  rw [List.dropLast_concat] at above
  rw [above]

/-- The first entry of a tree is one of a directory, with the name that it adds there, or it adds
none. -/
inductive FirstEntry (place : Place) (first : Place × Entry) (rest : List (Place × Entry)) :
    Prop where
  | named {name : String} (stands : first.1 = place ++ [name])
      (adds : entryNames { entries := first :: rest } place =
        name :: entryNames { entries := rest } place)
  | passed (elsewhere : ∀ name, first.1 ≠ place ++ [name])
      (same : entryNames { entries := first :: rest } place =
        entryNames { entries := rest } place)

theorem firstEntry (place : Place) (first : Place × Entry) (rest : List (Place × Entry)) :
    FirstEntry place first rest := by
  by_cases above : first.1.dropLast = place
  · cases last : first.1.getLast? with
    | some name =>
        refine .named (eq_append_of_getLast? above last) ?_
        simp only [entryNames, List.filterMap_cons, if_pos above, last]
    | none =>
        refine .passed (fun name stands => ?_) ?_
        · rw [stands, List.getLast?_concat] at last
          contradiction
        · simp only [entryNames, List.filterMap_cons, if_pos above, last]
  · refine .passed (fun name stands => ?_) ?_
    · rw [stands, List.dropLast_concat] at above
      contradiction
    · simp only [entryNames, List.filterMap_cons, if_neg above]

/-- The entries of a directory stand at places of the tree, in the same order. -/
theorem sublist_entryNames (entries : List (Place × Entry)) (place : Place) :
    ((entryNames { entries := entries } place).map fun name => place ++ [name]).Sublist
      (entries.map Prod.fst) := by
  induction entries with
  | nil => exact .slnil
  | cons first rest inductionHypothesis =>
      cases firstEntry place first rest with
      | named stands adds =>
          rw [adds, List.map_cons, List.map_cons, stands]
          exact inductionHypothesis.cons_cons _
      | passed _ same =>
          rw [same]
          exact inductionHypothesis.cons _

theorem nodup_entryNames (distinct : tree.HasDistinctPlaces) (place : Place) :
    (tree.entryNames place).Nodup :=
  List.Nodup.of_map _ (distinct.sublist (sublist_entryNames tree.entries place))

/-! ## Files among names -/

/-- The system does not refuse to tell whether an entry of a directory is a regular file. -/
def ShowsEntry (tree : FileTree) (directory : Path) (name : String) : Prop :=
  ∃ counts, tree.isFile (directory.child name).text = .ok counts

/-- Whether an entry of a directory is a regular file, or leads to one. -/
def countsAsFile (tree : FileTree) (directory : Path) (name : String) : Bool :=
  decide (tree.isFile (directory.child name).text = .ok true)

theorem filesAmong_cons_of_ok {counts : Bool} (found : tree.isFile (directory.child name).text =
    .ok counts) (names : List String) :
    tree.filesAmong directory (name :: names) =
      (tree.filesAmong directory names).map fun others =>
        if tree.countsAsFile directory name then name :: others else others := by
  have same : tree.countsAsFile directory name = counts := by
    rw [countsAsFile, found]
    cases counts <;> rfl
  rw [filesAmong, found, same]

theorem filesAmong_of_shown {names : List String}
    (shown : ∀ name ∈ names, tree.ShowsEntry directory name) :
    tree.filesAmong directory names = .ok (names.filter (tree.countsAsFile directory)) := by
  induction names with
  | nil => rfl
  | cons name others inductionHypothesis =>
      obtain ⟨⟨counts, found⟩, later⟩ := List.forall_mem_cons.1 shown
      rw [filesAmong_cons_of_ok found, inductionHypothesis later, List.filter_cons]
      rfl

/-- The first entry that is not shown refuses the others with itself. -/
theorem filesAmong_of_hidden {front back : List String} {refusal : PathError}
    (shown : ∀ other ∈ front, tree.ShowsEntry directory other)
    (hidden : tree.look (directory.child name).text = .error refusal) :
    tree.filesAmong directory (front ++ name :: back) = .error refusal := by
  induction front with
  | nil => rw [List.nil_append, filesAmong, isFile_of_look_error hidden]
  | cons first others inductionHypothesis =>
      obtain ⟨⟨counts, found⟩, later⟩ := List.forall_mem_cons.1 shown
      rw [List.cons_append, filesAmong_cons_of_ok found, inductionHypothesis later]
      rfl

/-- Of names that are not all shown there is a first one that is not. -/
theorem exists_first_hidden {names : List String}
    (hidden : ∃ name ∈ names, ¬tree.ShowsEntry directory name) :
    ∃ front name back refusal, names = front ++ name :: back ∧
      (∀ other ∈ front, tree.ShowsEntry directory other) ∧
      tree.look (directory.child name).text = .error refusal := by
  induction names with
  | nil => simp at hidden
  | cons first others inductionHypothesis =>
      cases found : tree.isFile (directory.child first).text with
      | error refusal =>
          exact ⟨[], first, others, refusal, rfl, by simp, look_of_isFile_error found⟩
      | ok counts =>
          have shown : tree.ShowsEntry directory first := ⟨counts, found⟩
          obtain ⟨name, member, isHidden⟩ := hidden
          have later : name ∈ others := by
            rcases List.mem_cons.1 member with rfl | later
            · exact absurd shown isHidden
            · exact later
          obtain ⟨front, next, back, refusal, rfl, before, looked⟩ :=
            inductionHypothesis ⟨name, later, isHidden⟩
          exact ⟨first :: front, next, back, refusal, rfl, List.forall_mem_cons.2 ⟨shown, before⟩,
            looked⟩

/-! ## Listing -/

theorem pairwise_sortedNames (names : List String) : (sortedNames names).Pairwise (· ≤ ·) := by
  have sorted : (sortedNames names).Pairwise fun left right => decide (left ≤ right) = true :=
    List.pairwise_mergeSort
      (fun first second third below above => by
        simp only [decide_eq_true_eq] at below above ⊢
        exact String.le_trans below above)
      (fun first second => by simpa using String.le_total first second) names
  exact sorted.imp fun ordered => of_decide_eq_true ordered

/-- Sorting forgets the order of before. -/
theorem sortedNames_of_perm {left right : List String} (reordered : left.Perm right) :
    sortedNames left = sortedNames right := by
  have sameNames : (sortedNames left).Perm (sortedNames right) :=
    (List.mergeSort_perm left _).trans (reordered.trans (List.mergeSort_perm right _).symm)
  exact List.Perm.eq_of_pairwise (fun first second _ _ => String.le_antisymm)
    (pairwise_sortedNames left) (pairwise_sortedNames right) sameNames

theorem pairwise_lt_sortedNames {names : List String} (distinct : names.Nodup) :
    (sortedNames names).Pairwise (· < ·) := by
  have distinctSorted : (sortedNames names).Nodup :=
    (List.mergeSort_perm names _).nodup_iff.2 distinct
  exact ((pairwise_sortedNames names).and distinctSorted).imp
    fun both => Std.lt_of_le_of_ne both.1 both.2

/-- A path leads to a directory that may be listed. -/
def Lists (tree : FileTree) (directory : Path) (place : Place) : Prop :=
  ∃ access, tree.status directory.text = .ok (place, .directory access) ∧ access.reads = true

/-- The system refuses to tell what an entry of a directory is. -/
def HidesEntry (tree : FileTree) (directory : Path) : Prop :=
  ∃ place, tree.Lists directory place ∧
    ∃ name ∈ tree.entryNames place, ¬tree.ShowsEntry directory name

/-- What a listing begins with: the system refuses the directory, or there is none, or its entries
are gone through. -/
inductive ListingOutcome (tree : FileTree) (directory : Path) : Prop where
  | hidden {refusal : PathError} (looked : tree.look directory.text = .error refusal)
      (stops : tree.listFiles directory = .error refusal)
  | closed {place : Place} {access : Access}
      (standing : tree.status directory.text = .ok (place, .directory access))
      (unreadable : access.reads = false)
      (stops : tree.listFiles directory = .error ⟨directory.text, .accessDenied⟩)
  | absent (noDirectory : ∀ place access, tree.status directory.text ≠
        .ok (place, .directory access))
      (notHidden : ∀ refusal, tree.look directory.text ≠ .error refusal)
      (none : tree.listFiles directory = .ok [])
  | listed {place : Place} (lists : tree.Lists directory place)

theorem listFiles_of_lists (lists : tree.Lists directory place) :
    tree.listFiles directory =
      (tree.filesAmong directory (tree.entryNames place)).map fun names =>
        (sortedNames names).map directory.child := by
  obtain ⟨access, standing, readable⟩ := lists
  rw [listFiles, look_of_status standing]
  simp only [readable, if_true]

theorem eq_of_lists {second : Place} (lists : tree.Lists directory place)
    (again : tree.Lists directory second) : place = second := by
  obtain ⟨access, standing, _⟩ := lists
  obtain ⟨other, found, _⟩ := again
  exact (Prod.mk.inj (Except.ok.inj (standing.symm.trans found))).1

theorem hiddenName_of_hidesEntry (lists : tree.Lists directory place)
    (hides : tree.HidesEntry directory) :
    ∃ name ∈ tree.entryNames place, ¬tree.ShowsEntry directory name := by
  obtain ⟨found, again, name, member, hidden⟩ := hides
  rw [← eq_of_lists lists again] at member
  exact ⟨name, member, hidden⟩

theorem listFiles_of_hidden_directory {refusal : PathError}
    (looked : tree.look directory.text = .error refusal) :
    tree.listFiles directory = .error refusal := by
  rw [listFiles, looked]

theorem listFiles_of_unreadable {access : Access}
    (standing : tree.status directory.text = .ok (place, .directory access))
    (unreadable : access.reads = false) :
    tree.listFiles directory = .error ⟨directory.text, .accessDenied⟩ := by
  rw [listFiles, look_of_status standing]
  simp only [unreadable, Bool.false_eq_true, if_false]

theorem listFiles_of_absent
    (noDirectory : ∀ place access, tree.status directory.text ≠ .ok (place, .directory access))
    (notHidden : ∀ refusal, tree.look directory.text ≠ .error refusal) :
    tree.listFiles directory = .ok [] := by
  cases standing : tree.status directory.text with
  | error error =>
      cases isAbsent : error.isAbsence with
      | true => rw [listFiles, look_of_absent standing isAbsent]
      | false => exact absurd (look_of_error standing isAbsent) (notHidden _)
  | ok found =>
      obtain ⟨place, entry⟩ := found
      rw [listFiles, look_of_status standing]
      cases entry with
      | directory access => exact absurd standing (noDirectory place access)
      | _ => rfl

theorem listingOutcome (tree : FileTree) (directory : Path) : ListingOutcome tree directory := by
  by_cases hidden : ∃ refusal, tree.look directory.text = .error refusal
  · obtain ⟨refusal, looked⟩ := hidden
    exact .hidden looked (listFiles_of_hidden_directory looked)
  by_cases isDirectory : ∃ place access, tree.status directory.text = .ok (place, .directory access)
  · obtain ⟨place, access, standing⟩ := isDirectory
    cases readable : access.reads with
    | true => exact .listed ⟨access, standing, readable⟩
    | false => exact .closed standing readable (listFiles_of_unreadable standing readable)
  · have noDirectory (place : Place) (access : Access) :
        tree.status directory.text ≠ .ok (place, .directory access) :=
      fun standing => isDirectory ⟨place, access, standing⟩
    have notHidden (refusal : PathError) : tree.look directory.text ≠ .error refusal :=
      fun looked => hidden ⟨refusal, looked⟩
    exact .absent noDirectory notHidden (listFiles_of_absent noDirectory notHidden)

/-- The files of a directory, all of whose entries are shown. -/
theorem listFiles_of_shown (lists : tree.Lists directory place)
    (shown : ¬tree.HidesEntry directory) :
    tree.listFiles directory = .ok ((sortedNames ((tree.entryNames place).filter
      (tree.countsAsFile directory))).map directory.child) := by
  have allShown : ∀ name ∈ tree.entryNames place, tree.ShowsEntry directory name := by
    intro name member
    by_contra hidden
    exact shown ⟨place, lists, name, member, hidden⟩
  rw [listFiles_of_lists lists, filesAmong_of_shown allShown]
  rfl

/-- A directory is refused for the first of its entries that is not shown. -/
theorem listFiles_of_hidden {front back : List String} {refusal : PathError}
    (lists : tree.Lists directory place) (names : tree.entryNames place = front ++ name :: back)
    (shown : ∀ other ∈ front, tree.ShowsEntry directory other)
    (hidden : tree.look (directory.child name).text = .error refusal) :
    tree.listFiles directory = .error refusal := by
  rw [listFiles_of_lists lists, names, filesAmong_of_hidden shown hidden]
  rfl

/-! ### Listings in another order -/

section Reordering

variable (reordered : other.Reorders tree) (distinct : tree.HasDistinctPlaces)

include reordered distinct

theorem lists_of_reorders : other.Lists directory place ↔ tree.Lists directory place := by
  simp only [Lists, status_of_reorders reordered distinct]

theorem showsEntry_of_reorders :
    other.ShowsEntry directory name ↔ tree.ShowsEntry directory name := by
  simp only [ShowsEntry, isFile_of_reorders reordered distinct]

theorem countsAsFile_of_reorders : other.countsAsFile directory = tree.countsAsFile directory := by
  funext name
  rw [countsAsFile, countsAsFile, isFile_of_reorders reordered distinct]

theorem hidesEntry_of_reorders : other.HidesEntry directory ↔ tree.HidesEntry directory := by
  have sameNames (place : Place) (name : String) :
      name ∈ other.entryNames place ↔ name ∈ tree.entryNames place :=
    (reordered.entries.filterMap _).mem_iff
  simp only [HidesEntry, lists_of_reorders reordered distinct,
    showsEntry_of_reorders reordered distinct, sameNames]

/-- **The order in which a directory lists its entries is not seen**, unless the system refuses to
tell what one of them is. -/
theorem listFiles_of_reorders (shown : ¬tree.HidesEntry directory) :
    other.listFiles directory = tree.listFiles directory := by
  have sameLook := look_of_reorders reordered distinct directory.text
  have sameStatus := status_of_reorders reordered distinct directory.text
  cases listingOutcome tree directory with
  | hidden looked stops =>
      rw [stops, listFiles_of_hidden_directory (sameLook.trans looked)]
  | closed standing unreadable stops =>
      rw [stops, listFiles_of_unreadable (sameStatus.trans standing) unreadable]
  | absent noDirectory notHidden none =>
      rw [none, listFiles_of_absent (by rwa [sameStatus]) (by rwa [sameLook])]
  | @listed place lists =>
      have otherShown : ¬other.HidesEntry directory :=
        fun hidden => shown ((hidesEntry_of_reorders reordered distinct).1 hidden)
      have sameNames : (other.entryNames place).Perm (tree.entryNames place) :=
        reordered.entries.filterMap _
      rw [listFiles_of_shown ((lists_of_reorders reordered distinct).2 lists) otherShown,
        listFiles_of_shown lists shown, countsAsFile_of_reorders reordered distinct,
        sortedNames_of_perm (sameNames.filter _)]

end Reordering

/-- The paths that are listed are those of the regular files, once each, in increasing order. -/
structure ListsFiles (tree : FileTree) (directory : Path) (place : Place) (paths : List Path) :
    Prop where
  increasing : (paths.map Path.baseName).Pairwise (· < ·)
  files : ∀ path, path ∈ paths ↔ ∃ name ∈ tree.entryNames place, path = directory.child name ∧
    tree.isFile path.text = .ok true

theorem baseName_child (path : Path) (name : String) : (path.child name).baseName = name := by
  rw [Path.baseName, Path.child, List.getLast?_concat]
  rfl

theorem listsFiles_sortedNames (distinct : tree.HasDistinctPlaces) (directory : Path)
    (place : Place) :
    ListsFiles tree directory place ((sortedNames ((tree.entryNames place).filter
      (tree.countsAsFile directory))).map directory.child) := by
  constructor
  · have sameNames : Path.baseName ∘ directory.child = id :=
      funext fun name => baseName_child directory name
    rw [List.map_map, sameNames, List.map_id]
    exact pairwise_lt_sortedNames ((nodup_entryNames distinct place).filter _)
  · intro path
    rw [List.mem_map]
    constructor
    · rintro ⟨name, member, rfl⟩
      obtain ⟨listed, counts⟩ := List.mem_filter.1 (List.mem_mergeSort.1 member)
      exact ⟨name, listed, rfl, of_decide_eq_true counts⟩
    · rintro ⟨name, listed, rfl, counts⟩
      exact ⟨name, List.mem_mergeSort.2 (List.mem_filter.2 ⟨listed, decide_eq_true counts⟩), rfl⟩

/-! ## Refused listings -/

/-- A directory is not listed only if the system refuses it or one of its entries. -/
theorem refuses_of_listFiles {refusal : PathError}
    (refused : tree.listFiles directory = .error refusal) :
    ∃ path error, (path = directory ∨ ∃ name, path = directory.child name) ∧
      Refuses tree path error ∧ refusal = ⟨path.text, error⟩ := by
  cases listingOutcome tree directory with
  | hidden looked stops =>
      rw [Except.error.inj (stops.symm.trans refused)] at looked
      obtain ⟨error, refuses, same⟩ := refuses_of_look looked
      exact ⟨directory, error, Or.inl rfl, refuses, same⟩
  | closed standing unreadable stops =>
      exact ⟨directory, .accessDenied, Or.inl rfl, .unlistable standing unreadable,
        (Except.error.inj (stops.symm.trans refused)).symm⟩
  | absent _ _ none => exact nomatch none.symm.trans refused
  | @listed place lists =>
      by_cases shown : tree.HidesEntry directory
      · obtain ⟨front, name, back, found, names, before, hidden⟩ :=
          exists_first_hidden (hiddenName_of_hidesEntry lists shown)
        rw [listFiles_of_hidden lists names before hidden] at refused
        rw [Except.error.inj refused] at hidden
        obtain ⟨error, refuses, same⟩ := refuses_of_look hidden
        exact ⟨directory.child name, error, Or.inr ⟨name, rfl⟩, refuses, same⟩
      · exact nomatch (listFiles_of_shown lists shown).symm.trans refused

theorem eq_child_of_listFiles {path : Path} {paths : List Path}
    (listed : tree.listFiles directory = .ok paths) (member : path ∈ paths) :
    ∃ name, path = directory.child name := by
  cases listingOutcome tree directory with
  | hidden _ stops => exact nomatch stops.symm.trans listed
  | closed _ _ stops => exact nomatch stops.symm.trans listed
  | absent _ _ none =>
      rw [← Except.ok.inj (none.symm.trans listed)] at member
      exact absurd member List.not_mem_nil
  | @listed place lists =>
      rw [listFiles_of_lists lists] at listed
      cases found : tree.filesAmong directory (tree.entryNames place) with
      | error refusal =>
          rw [found] at listed
          exact nomatch listed
      | ok names =>
          rw [found] at listed
          rw [← Except.ok.inj listed] at member
          obtain ⟨name, _, same⟩ := List.mem_map.1 member
          exact ⟨name, same.symm⟩

end HostResolver.Files.FileTree
