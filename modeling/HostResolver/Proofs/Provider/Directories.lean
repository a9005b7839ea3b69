import HostResolver.Proofs.Files.Listing
import HostResolver.Proofs.Provider.Refusals

/-!
Providers of directories in whichever order they are listed.

Owns: that the reading of files and the building of a provider see of a tree only which paths are
regular files and what is read at paths, and from it, and from the sorting of a listing, that a
provider of a directory, what is reported on the way and the refusal that there may be do not depend
on the order in which the directory is listed, unless the system refuses to tell what an entry is.

Does not own: what the provider holds.
-/

namespace HostResolver.Provider

open HostResolver.Config HostResolver.Document HostResolver.Files HostResolver.Servers
  HostResolver.Text

variable {tree other : FileTree}

/-! ## What is seen of a tree -/

/-- Two trees have the same regular files at all paths, and the same is read there. -/
structure ReadsAlike (other tree : FileTree) : Prop where
  isFile : ∀ text, other.isFile text = tree.isFile text
  read : ∀ text, other.read text = tree.read text

theorem readsAlike_of_reorders (reordered : other.Reorders tree)
    (distinct : tree.HasDistinctPlaces) : ReadsAlike other tree where
  isFile := FileTree.isFile_of_reorders reordered distinct
  read := FileTree.read_of_reorders reordered distinct

theorem readFiles_congr (alike : ReadsAlike other tree) (order : Order) (paths : List Path)
    (book : Book) : book.readFiles other order paths = book.readFiles tree order paths := by
  induction paths generalizing book with
  | nil => rfl
  | cons path others inductionHypothesis =>
      rw [Book.readFiles, Book.readFiles, Book.readFile, Book.readFile, alike.isFile, alike.read]
      simp only [inductionHypothesis]

theorem parseFiles_congr (alike : ReadsAlike other tree) (given : Value) (paths : List Path) :
    parseFiles other given paths = parseFiles tree given paths := by
  rw [parseFiles, parseFiles]
  simp only [readFiles_congr alike]

theorem linesAt_congr (alike : ReadsAlike other tree) (path : Path) :
    linesAt other path = linesAt tree path := by
  rw [linesAt, linesAt, FileTree.bytes?, FileTree.bytes?, alike.isFile, alike.read]

/-- The building of a provider sees of a tree only its regular files and what is read. -/
theorem build_congr (alike : ReadsAlike other tree) (inputs : Inputs) :
    ServerProvider.build other inputs = ServerProvider.build tree inputs := by
  -- The override files and the primary file are parsed, and the primary file is read once more.
  have sameSources : Sources.read other inputs = Sources.read tree inputs := by
    unfold Sources.read
    simp only [parseFiles_congr alike]
  have samePrimary :
      ServerProvider.readPrimary other inputs = ServerProvider.readPrimary tree inputs := by
    unfold ServerProvider.readPrimary Options.ofFile SearchList.ofFile
    simp only [linesAt_congr alike]
  rw [ServerProvider.build, ServerProvider.build, sameSources, samePrimary]

/-! ## Directories -/

theorem ofPaths_of_reorders (reordered : other.Reorders tree) (distinct : tree.HasDistinctPlaces)
    {directory : Path} (shown : ¬tree.HidesEntry directory) (primary : Option Path)
    (given : Value) (environment : Option String) :
    ServerProvider.ofPaths other primary (some directory) given environment =
      ServerProvider.ofPaths tree primary (some directory) given environment := by
  unfold ServerProvider.ofPaths ServerProvider.overrideFiles
  simp only [FileTree.listFiles_of_reorders reordered distinct shown,
    build_congr (readsAlike_of_reorders reordered distinct)]

/-- The system refuses an entry of a directory, and those that are listed before it are shown. -/
structure FirstHidden (tree : FileTree) (directory : Path) (names : List String) (name : String)
    (cause : FileError) : Prop where
  before : ∃ front back, names = front ++ name :: back ∧
    ∀ shown ∈ front, tree.ShowsEntry directory shown
  hidden : tree.look (directory.child name).text = .error ⟨(directory.child name).text, cause⟩
  hides : tree.Hides (directory.child name).text cause

theorem exists_firstHidden {directory : Path} {names : List String}
    (hidden : ∃ name ∈ names, ¬tree.ShowsEntry directory name) :
    ∃ name cause, FirstHidden tree directory names name cause := by
  obtain ⟨front, name, back, ⟨text, cause⟩, listed, before, looked⟩ :=
    FileTree.exists_first_hidden hidden
  obtain ⟨same, hides⟩ := FileTree.hides_of_look looked
  dsimp only at same hides
  subst same
  exact ⟨name, cause, ⟨front, back, listed, before⟩, looked, hides⟩

/-- A directory is refused for the first of its entries that is hidden. -/
theorem listFiles_of_firstHidden {directory : Path} {place : Place} {name : String}
    {cause : FileError} (lists : tree.Lists directory place)
    (first : FirstHidden tree directory (tree.entryNames place) name cause) :
    tree.listFiles directory = .error ⟨(directory.child name).text, cause⟩ := by
  obtain ⟨front, back, names, before⟩ := first.before
  exact FileTree.listFiles_of_hidden lists names before first.hidden

theorem firstHidden_of_reorders (reordered : other.Reorders tree)
    (distinct : tree.HasDistinctPlaces) {directory : Path} {names : List String} {name : String}
    {cause : FileError} (first : FirstHidden other directory names name cause) :
    FirstHidden tree directory names name cause := by
  obtain ⟨front, back, listed, before⟩ := first.before
  have hidden := first.hidden
  rw [FileTree.look_of_reorders reordered distinct] at hidden
  exact ⟨⟨front, back, listed, fun shown member =>
    (FileTree.showsEntry_of_reorders reordered distinct).1 (before shown member)⟩, hidden,
    (FileTree.hides_of_look hidden).2⟩

/-- **The order in which a directory lists its entries is not seen.** In every order, the regular
files of a directory are listed once each, in increasing order of their names by code point, and
a provider of the directory is the same, or the refusal of one is, and so is what is reported on the
way. The only exception is a directory with an entry of which the system refuses to tell what it is:
it is refused in every order, for the first such entry that is listed. -/
theorem ofPaths_listing (tree : FileTree) (distinct : tree.HasDistinctPlaces) (directory : Path) :
    (¬tree.HidesEntry directory → ∀ other : FileTree, other.Reorders tree →
      (∀ place, tree.Lists directory place →
        ∃ paths, other.listFiles directory = .ok paths ∧
          FileTree.ListsFiles tree directory place paths) ∧
      other.listFiles directory = tree.listFiles directory ∧
      ∀ primary given environment,
        ServerProvider.ofPaths other primary (some directory) given environment =
          ServerProvider.ofPaths tree primary (some directory) given environment) ∧
    (tree.HidesEntry directory → ∀ other : FileTree, other.Reorders tree →
      ∃ place name cause, tree.Lists directory place ∧
        FirstHidden tree directory (other.entryNames place) name cause ∧
        other.listFiles directory = .error ⟨(directory.child name).text, cause⟩ ∧
        ∀ primary given environment,
          ServerProvider.ofPaths other primary (some directory) given environment =
            (.error (refusedPath ⟨(directory.child name).text, cause⟩), [])) := by
  constructor
  · intro shown other reordered
    have sameListing := FileTree.listFiles_of_reorders reordered distinct shown
    refine ⟨?_, sameListing, ofPaths_of_reorders reordered distinct shown⟩
    intro place lists
    rw [sameListing]
    exact ⟨_, FileTree.listFiles_of_shown lists shown,
      FileTree.listsFiles_sortedNames distinct directory place⟩
  · intro hides other reordered
    obtain ⟨place, otherLists, hidden⟩ :=
      (FileTree.hidesEntry_of_reorders reordered distinct).2 hides
    obtain ⟨name, cause, first⟩ := exists_firstHidden hidden
    have refused := listFiles_of_firstHidden otherLists first
    refine ⟨place, name, cause, (FileTree.lists_of_reorders reordered distinct).1 otherLists,
      firstHidden_of_reorders reordered distinct first, refused, ?_⟩
    intro primary given environment
    rw [ServerProvider.ofPaths, ServerProvider.overrideFiles, refused]
    rfl

/-! ### A directory by a winding path -/

/-- The path that goes to the directory `d` and back a number of times, and then to it. -/
def windingPath (turns : Nat) : Path := ⟨"", (List.replicate turns ["d", ".."]).flatten ++ ["d"]⟩

def corpOverride : Place × Entry :=
  (["d", "corp.example"], .file (asciiBytes "nameserver ::1\n") .full)

def labOverride : Place × Entry :=
  (["d", "lab.example"], .file (asciiBytes "nameserver ::2\n") .full)

/-- A directory `d` that lists the file for `corp.example` first. -/
def corpFirst : FileTree where
  entries := [(["d"], .directory .full), corpOverride, labOverride]

/-- The same directory in the other order. -/
def labFirst : FileTree where
  entries := [(["d"], .directory .full), labOverride, corpOverride]

theorem labFirst_reorders : labFirst.Reorders corpFirst where
  entries := (List.Perm.swap corpOverride labOverride []).cons _
  workplace := rfl
  top := rfl

theorem text_windingPath (turns : Nat) :
    (windingPath turns).text =
      "/".intercalate ((List.replicate turns ["d", ".."]).flatten ++ ["d"]) :=
  text_of_ne_nil (List.append_ne_nil_of_right_ne_nil _ (List.cons_ne_nil _ _))

theorem text_child_windingPath (turns : Nat) (name : String) :
    ((windingPath turns).child name).text =
      "/".intercalate ((List.replicate turns ["d", ".."]).flatten ++ ["d", name]) := by
  rw [windingPath, Path.child, List.append_assoc, List.singleton_append,
    text_of_ne_nil (List.append_ne_nil_of_right_ne_nil _ (List.cons_ne_nil _ _))]

theorem size_turns (turns : Nat) {behind : List String} (nonempty : behind ≠ []) :
    ("/".intercalate ((List.replicate turns ["d", ".."]).flatten ++ behind)).utf8ByteSize =
      5 * turns + ("/".intercalate behind).utf8ByteSize := by
  induction turns with
  | zero => simp
  | succ turns inductionHypothesis =>
      rw [List.replicate_succ, List.flatten_cons, List.append_assoc, List.cons_append,
        List.cons_append, List.nil_append, size_intercalate_cons _ (List.cons_ne_nil _ _),
        size_intercalate_cons _ (List.append_ne_nil_of_right_ne_nil _ nonempty),
        inductionHypothesis, show "d".utf8ByteSize = 1 from rfl,
        show "..".utf8ByteSize = 2 from rfl]
      omega

theorem size_child_windingPath (turns : Nat) (name : String) :
    ((windingPath turns).child name).text.utf8ByteSize = 5 * turns + 2 + name.utf8ByteSize := by
  rw [text_child_windingPath, size_turns turns (List.cons_ne_nil _ _),
    size_intercalate_cons _ (List.cons_ne_nil _ _), String.intercalate_singleton,
    show "d".utf8ByteSize = 1 from rfl]
  omega

/-- Neither a slash nor a NUL character is in a name on the way, if it is in none behind it. -/
theorem not_mem_turns {character : Char} (other : character ≠ 'd' ∧ character ≠ '.') (turns : Nat)
    {behind : List String} (absent : ∀ name ∈ behind, character ∉ name.toList) :
    ∀ name ∈ (List.replicate turns ["d", ".."]).flatten ++ behind, character ∉ name.toList := by
  intro name member
  rcases List.mem_append.1 member with onTurn | isBehind
  · have names : ¬turns = 0 ∧ (name = "d" ∨ name = "..") := by simpa using onTurn
    rcases names.2 with rfl | rfl
    · simpa using other.1
    · simpa using other.2
  · exact absent name isBehind

/-- A turn leads back to where it started. -/
theorem descend_turns {follow : Place → List String → Except FileError Place}
    (present : tree.entry? ["d"] = some (.directory .full)) (full : tree.top = .full) (turns : Nat)
    (behind : List String) :
    tree.descend follow [] ((List.replicate turns ["d", ".."]).flatten ++ behind) =
      tree.descend follow [] behind := by
  have atTop : tree.entry? [] = some (.directory .full) := by
    rw [← full]
    exact if_pos rfl
  have into : tree.enter [] "d" = .ok ["d"] := by
    rw [FileTree.enter_of_directory atTop]
    decide
  have back : tree.enter ["d"] ".." = .ok [] := by
    rw [FileTree.enter_of_directory present]
    decide
  induction turns with
  | zero => rfl
  | succ turns inductionHypothesis =>
      rw [List.replicate_succ, List.flatten_cons, List.append_assoc, List.cons_append,
        List.cons_append, List.nil_append,
        FileTree.descend_of_enter into (by simp [present]),
        FileTree.descend_of_enter back (by simp [atTop]), inductionHypothesis]

/-- Behind turns, a path leads where it leads without them. -/
theorem locate_turns (present : tree.entry? ["d"] = some (.directory .full))
    (full : tree.top = .full) (works : tree.workplace = []) {turns : Nat} {behind : List String}
    (nonempty : behind ≠ [])
    (whole : ∀ name ∈ behind, '/' ∉ name.toList ∧ Char.ofNat 0 ∉ name.toList)
    (positive : 0 < ("/".intercalate behind).utf8ByteSize)
    (short : 5 * turns + ("/".intercalate behind).utf8ByteSize ≤ 4095) :
    tree.locate ("/".intercalate ((List.replicate turns ["d", ".."]).flatten ++ behind)) =
      tree.walk FileTree.linkLimit [] behind := by
  have size := size_turns turns nonempty
  have noNul := not_mem_intercalate (by decide)
    (not_mem_turns (by decide) turns fun name member => (whole name member).2)
  have names := rawNames_intercalate (List.append_ne_nil_of_right_ne_nil _ nonempty)
    (not_mem_turns (by decide) turns fun name member => (whole name member).1)
  generalize "/".intercalate ((List.replicate turns ["d", ".."]).flatten ++ behind) = text at *
  have within : isLongPath text = false := by
    rw [isLongPath, size]
    exact decide_eq_false (by omega)
  have notEmpty : text.isEmpty = false := by
    rw [Bool.eq_false_iff]
    intro empty
    rw [String.isEmpty_iff.1 empty, String.utf8ByteSize_empty] at size
    omega
  have start : FileTree.startOf text [] = [] := by
    rw [FileTree.startOf, ite_self]
  rw [FileTree.locate_of_short noNul notEmpty within, works, start, names]
  exact descend_turns present full turns behind

theorem lists_windingPath (present : tree.entry? ["d"] = some (.directory .full))
    (full : tree.top = .full) (works : tree.workplace = []) {turns : Nat} (short : turns ≤ 818) :
    tree.Lists (windingPath turns) ["d"] := by
  have into : tree.enter [] "d" = .ok ["d"] := by
    rw [FileTree.enter_of_directory (if_pos rfl), full]
    decide
  have located : tree.locate (windingPath turns).text = .ok ["d"] := by
    rw [text_windingPath, locate_turns present full works (List.cons_ne_nil _ _) (by simp)
      (by decide) (Nat.add_le_add (Nat.mul_le_mul_left 5 short) (by decide : _ ≤ 5))]
    exact FileTree.descend_of_enter into (by simp [present]) []
  exact ⟨.full, FileTree.status_of_locate located present, rfl⟩

/-- Behind 818 turns, the path of an entry with a name of four bytes is beyond the limits. -/
theorem isLongPath_child_windingPath {name : String} (long : 4 ≤ name.utf8ByteSize) :
    isLongPath ((windingPath 818).child name).text = true := by
  rw [isLongPath, size_child_windingPath]
  exact decide_eq_true (by omega)

/-- Neither of the two overrides is shown behind 818 turns. -/
theorem look_child_windingPath {name : String}
    (member : name = "corp.example" ∨ name = "lab.example") (tree : FileTree) :
    tree.look ((windingPath 818).child name).text =
      .error ⟨((windingPath 818).child name).text, .nameTooLong⟩ := by
  have noNul : Char.ofNat 0 ∉ ((windingPath 818).child name).text.toList := by
    rw [text_child_windingPath]
    refine not_mem_intercalate (by decide) (not_mem_turns (by decide) 818 ?_)
    rcases member with rfl | rfl <;> simp
  have long : 4 ≤ name.utf8ByteSize := by
    rcases member with rfl | rfl <;> decide
  exact FileTree.look_of_error (FileTree.status_of_locate_error
    (FileTree.locate_of_longPath noNul (isLongPath_child_windingPath long))) rfl

theorem listFiles_corpFirst : corpFirst.listFiles (windingPath 818) =
    .error ⟨((windingPath 818).child "corp.example").text, .nameTooLong⟩ :=
  FileTree.listFiles_of_hidden (lists_windingPath rfl rfl rfl (Nat.le_refl _))
    (show corpFirst.entryNames ["d"] = [] ++ "corp.example" :: ["lab.example"] by decide)
    (by simp) (look_child_windingPath (Or.inl rfl) _)

theorem listFiles_labFirst : labFirst.listFiles (windingPath 818) =
    .error ⟨((windingPath 818).child "lab.example").text, .nameTooLong⟩ :=
  FileTree.listFiles_of_hidden (lists_windingPath rfl rfl rfl (Nat.le_refl _))
    (show labFirst.entryNames ["d"] = [] ++ "lab.example" :: ["corp.example"] by decide)
    (by simp) (look_child_windingPath (Or.inr rfl) _)

theorem hidesEntry_corpFirst : corpFirst.HidesEntry (windingPath 818) := by
  refine ⟨["d"], lists_windingPath rfl rfl rfl (Nat.le_refl _), "lab.example", by decide, ?_⟩
  rintro ⟨counts, found⟩
  rw [FileTree.isFile_of_look_error (look_child_windingPath (Or.inr rfl) _)] at found
  exact nomatch found

/-- **Entries beyond the limits hide the files of a directory and show the order of its listing.**
Neither of the two regular files is listed, and which of them a provider is refused for depends on
the order. -/
theorem ofPaths_windingPath_differs :
    labFirst.Reorders corpFirst ∧ corpFirst.HasDistinctPlaces ∧
      corpFirst.Lists (windingPath 818) ["d"] ∧
      corpFirst.entry? ["d", "corp.example"] =
        some (.file (asciiBytes "nameserver ::1\n") .full) ∧
      (∀ paths, corpFirst.listFiles (windingPath 818) ≠ .ok paths) ∧
      (ServerProvider.ofPaths labFirst none (some (windingPath 818)) (.text "failover") none).1 ≠
        (ServerProvider.ofPaths corpFirst none (some (windingPath 818)) (.text "failover")
          none).1 := by
  refine ⟨labFirst_reorders, by decide, lists_windingPath rfl rfl rfl (Nat.le_refl _), by decide,
    ?_, ?_⟩
  · intro paths listed
    rw [listFiles_corpFirst] at listed
    contradiction
  · rw [ServerProvider.ofPaths, ServerProvider.ofPaths, ServerProvider.overrideFiles,
      ServerProvider.overrideFiles, listFiles_corpFirst, listFiles_labFirst]
    intro same
    have sameText : ((windingPath 818).child "lab.example").text =
        ((windingPath 818).child "corp.example").text := by
      simpa using same
    have sameSize := congrArg String.utf8ByteSize sameText
    rw [size_child_windingPath, size_child_windingPath] at sameSize
    exact absurd sameSize (by decide)

/-- By its short path, the directory shows its entries. -/
theorem not_hidesEntry_corpFirst : ¬corpFirst.HidesEntry (windingPath 0) := by
  rintro ⟨place, lists, name, member, hidden⟩
  obtain rfl := FileTree.eq_of_lists (lists_windingPath rfl rfl rfl (Nat.zero_le _)) lists
  have names : name = "corp.example" ∨ name = "lab.example" := by
    rw [show corpFirst.entryNames ["d"] = ["corp.example", "lab.example"] by decide] at member
    simpa using member
  have located : corpFirst.locate ((windingPath 0).child name).text =
      corpFirst.walk FileTree.linkLimit [] ["d", name] := by
    rw [text_child_windingPath]
    rcases names with rfl | rfl
    all_goals
      exact locate_turns rfl rfl rfl (List.cons_ne_nil _ _) (by simp) (by decide) (by decide)
  have standing : ∃ bytes access, corpFirst.status ((windingPath 0).child name).text =
      .ok (["d", name], .file bytes access) := by
    rcases names with rfl | rfl
    all_goals exact ⟨_, _, FileTree.status_of_locate (located.trans rfl) rfl⟩
  obtain ⟨bytes, access, found⟩ := standing
  exact hidden ⟨true, FileTree.isFile_of_status found⟩

/-- By its short path, the directory gives both files in the order of their names, though it lists
them the other way around; by its long path it gives none. -/
theorem ofPaths_listing_met :
    (∃ paths, labFirst.listFiles (windingPath 0) = .ok paths ∧
        FileTree.ListsFiles corpFirst (windingPath 0) ["d"] paths) ∧
      ServerProvider.ofPaths labFirst none (some (windingPath 0)) (.text "failover") none =
        ServerProvider.ofPaths corpFirst none (some (windingPath 0)) (.text "failover") none ∧
      ∃ name cause, labFirst.listFiles (windingPath 818) =
        .error ⟨((windingPath 818).child name).text, cause⟩ := by
  have distinct : corpFirst.HasDistinctPlaces := by decide
  obtain ⟨listed, _, sameProvider⟩ := (ofPaths_listing corpFirst distinct (windingPath 0)).1
    not_hidesEntry_corpFirst labFirst labFirst_reorders
  obtain ⟨_, name, cause, _, _, refused, _⟩ :=
    (ofPaths_listing corpFirst distinct (windingPath 818)).2 hidesEntry_corpFirst labFirst
      labFirst_reorders
  exact ⟨listed _ (lists_windingPath rfl rfl rfl (Nat.zero_le _)),
    sameProvider none (.text "failover") none, name, cause, refused⟩

end HostResolver.Provider
