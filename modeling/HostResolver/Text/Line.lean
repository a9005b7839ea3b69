/-!
Lines of a text.

This module owns the rule for line ends: a line feed, a carriage return, and a carriage return with
a line feed behind it each end one line, and nothing else does.
-/

namespace HostResolver.Text

/-- A text cut at its line ends: the lines that are ended, and what follows the last line end. -/
structure Cut where
  ended : List (List Char)
  rest : List Char
deriving DecidableEq, Repr

namespace Cut

def newLine (cut : Cut) : Cut := ⟨[] :: cut.ended, cut.rest⟩

/-- Puts a character in front of the first line. -/
def extend (character : Char) : Cut → Cut
  | ⟨[], rest⟩ => ⟨[], character :: rest⟩
  | ⟨line :: lines, rest⟩ => ⟨(character :: line) :: lines, rest⟩

/-- Cuts a text at its line ends. -/
def ofText : List Char → Cut
  | [] => ⟨[], []⟩
  | '\r' :: '\n' :: text => (ofText text).newLine
  | '\r' :: text => (ofText text).newLine
  | '\n' :: text => (ofText text).newLine
  | character :: text => (ofText text).extend character

/-- All lines; what follows the last line end is a line unless it is empty. -/
def lines (cut : Cut) : List (List Char) :=
  if cut.rest.isEmpty then cut.ended else cut.ended ++ [cut.rest]

end Cut

def lines (text : List Char) : List (List Char) := (Cut.ofText text).lines

/-- The lines that are surely ended although more text may follow: a carriage return at the very
end may still be the first half of a line end, so it ends no line yet. -/
def surelyEnded (text : List Char) : List (List Char) :=
  if text.getLast? == some '\r' then (Cut.ofText text.dropLast).ended else (Cut.ofText text).ended

/-- The text with every line end written as a line feed. -/
def withLineFeeds : List Char → List Char
  | [] => []
  | '\r' :: '\n' :: text => '\n' :: withLineFeeds text
  | '\r' :: text => '\n' :: withLineFeeds text
  | character :: text => character :: withLineFeeds text

end HostResolver.Text
