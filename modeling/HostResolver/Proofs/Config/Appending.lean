import HostResolver.Proofs.Config.Parsing

/-!
Files parsed in turn against files parsed apart.

Owns: that what is filed so far has no say in which line or file is refused, and from it that one
parse of two lists of files is the parse of each of them, with the later map filed behind the
earlier one.

Does not own: what the sections of a single file are.
-/

namespace HostResolver.Config

open HostResolver.Document HostResolver.Files HostResolver.Servers HostResolver.Text

/-! ## Refusals -/

/-- A line does the same to the section that is being read, whatever is filed so far. -/
theorem draft_of_readLine (order : Order) {left right : Progress} (same : left.draft = right.draft)
    (line : List Char) :
    (left.readLine order line).map Progress.draft =
      (right.readLine order line).map Progress.draft := by
  rw [Progress.readLine, Progress.readLine]
  cases Directive.ofLine line with
  | error error => rfl
  | ok directive =>
      cases directive with
      | nameserver value =>
          simp only [Progress.apply, same]
          cases Address.Nameserver.readEndpoint value right.draft.port <;> rfl
      | domain name =>
          simp only [Progress.apply, Except.map, Progress.enter, draft_commit, same]
      | port digits =>
          simp only [Progress.apply, same]
          cases Address.Port.read digits <;> rfl
      | sortlist => simp only [Progress.apply, Except.map, same]
      | other => simp only [Progress.apply, Except.map, same]

/-- Which line is refused, and why, does not depend on what is filed so far. -/
theorem refusal_of_readLines (order : Order) {left right : Progress}
    (same : left.draft = right.draft) (number : Nat) (rawLines : List (List Char)) :
    (Progress.readLines order number left rawLines).2 =
      (Progress.readLines order number right rawLines).2 := by
  induction rawLines generalizing number left right with
  | nil => rfl
  | cons rawLine rest inductionHypothesis =>
      rw [Progress.readLines, Progress.readLines]
      cases significant? rawLine with
      | none => exact inductionHypothesis same (number + 1)
      | some line =>
          have step := draft_of_readLine order same line
          simp only
          cases leftRead : left.readLine order line with
          | error leftError =>
              cases rightRead : right.readLine order line with
              | error rightError =>
                  rw [leftRead, rightRead] at step
                  cases step
                  rfl
              | ok rightNext => simp [leftRead, rightRead, Except.map] at step
          | ok leftNext =>
              cases rightRead : right.readLine order line with
              | error rightError => simp [leftRead, rightRead, Except.map] at step
              | ok rightNext =>
                  rw [leftRead, rightRead] at step
                  exact inductionHypothesis (Except.ok.inj step) (number + 1)

theorem refusal_of_readText (order : Order) (left right : Book) (path name : String)
    (reading : Reading) :
    (left.readText order path name reading).2 = (right.readText order path name reading).2 := by
  have sameStart : (⟨.start name, left⟩ : Progress).draft =
      (⟨.start name, right⟩ : Progress).draft := rfl
  have same := refusal_of_readLines order sameStart 1 reading.lines
  rw [Book.readText, Book.readText]
  simp only [same]
  split
  · rfl
  · split <;> rfl

theorem refusal_of_readFile (order : Order) (left right : Book) (tree : FileTree) (path : Path) :
    (left.readFile tree order path).2 = (right.readFile tree order path).2 := by
  cases found : tree.bytes? path with
  | error refusal =>
      obtain ⟨_, _, leftRefused⟩ := Book.exists_readFile_of_error left order found
      obtain ⟨_, _, rightRefused⟩ := Book.exists_readFile_of_error right order found
      rw [leftRefused, rightRefused]
  | ok content =>
      cases content with
      | none => rw [Book.readFile_of_none found, Book.readFile_of_none found]
      | some bytes =>
          rw [Book.readFile_of_bytes found, Book.readFile_of_bytes found]
          exact refusal_of_readText order _ _ _ _ _

/-- Whether files are refused, and why, does not depend on what is filed so far. -/
theorem refusal_of_readFiles (order : Order) (left right : Book) (tree : FileTree)
    (paths : List Path) :
    (left.readFiles tree order paths).2 = (right.readFiles tree order paths).2 := by
  induction paths generalizing left right with
  | nil => rfl
  | cons path rest inductionHypothesis =>
      have same := refusal_of_readFile order left right tree path
      rw [Book.readFiles, Book.readFiles]
      cases leftRead : left.readFile tree order path with
      | mk leftNext leftRefusal =>
          cases rightRead : right.readFile tree order path with
          | mk rightNext rightRefusal =>
              rw [leftRead, rightRead] at same
              simp only at same
              subst same
              cases leftRefusal with
              | none => exact inductionHypothesis leftNext rightNext
              | some error => rfl

/-! ## Two lists of files -/

/-- Files are read in turn. -/
theorem readFiles_append (order : Order) (book : Book) (tree : FileTree)
    (first second : List Path) :
    book.readFiles tree order (first ++ second) =
      match book.readFiles tree order first with
      | (later, none) => later.readFiles tree order second
      | (later, some error) => (later, some error) := by
  induction first generalizing book with
  | nil => rfl
  | cons path rest inductionHypothesis =>
      rw [List.cons_append, Book.readFiles, Book.readFiles]
      split
      · next next _ => exact inductionHypothesis next
      · rfl

/-- **One parse of two lists of files.** It is refused as the first list is, or else as the second
one is; and if neither is, its map is that of the first list with that of the second filed behind
it. -/
theorem parseFiles_append (tree : FileTree) (given : Value) (first second : List Path) :
    (parseFiles tree given (first ++ second)).1 =
      (parseFiles tree given first).1.bind fun files =>
        (parseFiles tree given second).1.map fun others => files.insertAll others.entries := by
  cases named : Order.ofValue? given with
  | none => simp [parseFiles, named, Except.bind]
  | some order =>
      simp only [parseFiles, named, readFiles_append]
      cases firstRead : Book.empty.readFiles tree order first with
      | mk files firstRefusal =>
          cases firstRefusal with
          | some error => rfl
          | none =>
              have same := refusal_of_readFiles order files Book.empty tree second
              cases bothRead : files.readFiles tree order second with
              | mk both bothRefusal =>
                  cases secondRead : Book.empty.readFiles tree order second with
                  | mk others secondRefusal =>
                      rw [bothRead, secondRead] at same
                      simp only at same
                      subst same
                      cases bothRefusal with
                      | some error => simp [bothRead, Except.bind, Except.map]
                      | none =>
                          obtain ⟨bothFiled, _⟩ := map_of_readFiles bothRead
                          obtain ⟨othersFiled, _⟩ := map_of_readFiles secondRead
                          have behind : both.map = files.map.insertAll others.map.entries := by
                            rw [bothFiled, othersFiled]
                            exact (DomainMap.insertAll_entries_empty_insertAll _ _).symm
                          simp [bothRead, Except.bind, Except.map, behind]

theorem parseFiles_of_nil {tree : FileTree} {given : Value} {order : Order}
    (named : Order.ofValue? given = some order) :
    parseFiles tree given [] = (.ok .empty, []) := by
  simp only [parseFiles, named, Book.readFiles, Book.empty]

/-- No files have no sections. -/
theorem parseFiles_nil {tree : FileTree} {given : Value} {order : Order}
    (named : Order.ofValue? given = some order) :
    (parseFiles tree given []).1 = .ok .empty := by
  rw [parseFiles_of_nil named]

end HostResolver.Config
