import HostResolver.Config.Event
import HostResolver.Text.Numeral

/-!
Options of the resolver.

This module owns the three options that `options` lines and the environment set, each to the last
value that is a whole number, the environment winning over the file.
-/

namespace HostResolver.Config

open HostResolver.Files HostResolver.Text

/-- The options of the resolver. -/
structure Options where
  /-- The count of points that a name needs to be tried as it is first. -/
  ndots : Int := 1
  /-- The seconds to wait for a server. -/
  timeout : Int := 5
  /-- The count of attempts of a query. -/
  attempts : Int := 16
deriving DecidableEq, Repr

namespace Options

/-- The options under their names, with the way to set them. -/
def setter? (name : String) : Option (Options → Int → Options) :=
  if name = "ndots" then some fun options value => { options with ndots := value }
  else if name = "timeout" then some fun options value => { options with timeout := value }
  else if name = "attempts" then some fun options value => { options with attempts := value }
  else none

/-- Applies one word: a name, a colon and a value. -/
def applyWord (options : Options) (word : List Char) : Options × List Event :=
  match cutAtFirst? ':' word with
  | none => (options, [])
  | some (name, value) =>
    match setter? (String.ofList name) with
    | none => (options, [])
    | some set =>
      match Numeral.read value with
      | .ok value => (set options value, [])
      | .error _ => (options, [.malformedOption (String.ofList word)])

def applyWords (options : Options) : List (List Char) → Options × List Event
  | [] => (options, [])
  | word :: others =>
    let applied := options.applyWord word
    let rest := applied.1.applyWords others
    (rest.1, applied.2 ++ rest.2)

def applyText (options : Options) (text : List Char) : Options × List Event :=
  options.applyWords (words text)

/-- The words behind the label of a line, if it has the given label. -/
def labelled? (label : String) (line : List Char) : Option (List Char) :=
  match firstWord? line with
  | some (found, rest) => if String.ofList found = label then some rest else none
  | none => none

/-- Applies the `options` lines among lines in turn. -/
def applyLines (options : Options) : List (List Char) → Options × List Event
  | [] => (options, [])
  | line :: lines =>
    match labelled? "options" line with
    | none => options.applyLines lines
    | some text =>
      let applied := options.applyText text
      let rest := applied.1.applyLines lines
      (rest.1, applied.2 ++ rest.2)

end Options

/-- The options that the lines of a file and then the environment set. -/
def Options.ofLines (lines : List (List Char)) (environment : Option String) :
    Options × List Event :=
  let fromFile := ({} : Options).applyLines lines
  match environment with
  | none => fromFile
  | some text =>
    let applied := fromFile.1.applyText text.toList
    (applied.1, fromFile.2 ++ applied.2)

/-- The options that the file at a path and then the environment set. -/
def Options.ofFile (tree : FileTree) (path : Path) (environment : Option String) :
    Except ReadError (Options × List Event) :=
  (linesAt tree path).map fun lines => Options.ofLines lines environment

end HostResolver.Config
