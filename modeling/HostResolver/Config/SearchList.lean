import HostResolver.Config.Options

/-!
Search lists.

This module owns the list of domains that a file gives for short names: the words of all `search`
lines in order, or, where there are none, the argument of the last `domain` line.
-/

namespace HostResolver.Config

open HostResolver.Files HostResolver.Text

namespace SearchList

/-- The words of the `search` lines among lines. -/
def searched (lines : List (List Char)) : List String :=
  lines.flatMap fun line =>
    match Options.labelled? "search" line with
    | some text => (words text).map String.ofList
    | none => []

def domainOf? (line : List Char) : Option String := do
  let (domain, _) ← firstWord? (← Options.labelled? "domain" line)
  return String.ofList domain

def ofLines (lines : List (List Char)) : List String :=
  match searched lines with
  | [] => ((lines.filterMap domainOf?).getLast?).toList
  | domains => domains

/-- The search list that the file at a path gives. -/
def ofFile (tree : FileTree) (path : Path) : Except ReadError (List String) :=
  (linesAt tree path).map ofLines

end SearchList

end HostResolver.Config
