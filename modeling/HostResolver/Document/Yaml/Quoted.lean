import HostResolver.Document.Yaml.Character
import HostResolver.Document.Yaml.Error

/-!
Quoted scalars of a document.

This module owns the reading of a scalar between single or double quotes. A quoted scalar may span
lines: a single line end counts as a space, of several the first is left out, and blanks on either
side of a line end are dropped. Between single quotes only the quote itself is written twice;
between double quotes a backslash starts an escape, and one before a line end joins two lines.
-/

namespace HostResolver.Document.Yaml

open HostResolver.Text

/-- What a reader takes from the front of a text: its value, and the rest of the text. -/
structure Piece (text : List Char) where
  value : List Char
  rest : List Char
  rest_le : rest.length ≤ text.length

namespace Piece

/-- A piece whose rest belongs to a longer text. -/
def widen {text longer : List Char} (piece : Piece text) (le : text.length ≤ longer.length) :
    Piece longer :=
  ⟨piece.value, piece.rest, Nat.le_trans piece.rest_le le⟩

/-- A piece with more text in front. -/
def precede {text : List Char} (value : List Char) (piece : Piece text) : Piece text :=
  ⟨value ++ piece.value, piece.rest, piece.rest_le⟩

end Piece

theorem length_dropWhile_le (kind : Char → Bool) (text : List Char) :
    (text.dropWhile kind).length ≤ text.length := by
  induction text with
  | nil => exact Nat.le_refl _
  | cons character rest inductionHypothesis =>
    rw [List.dropWhile_cons]
    split
    · exact Nat.le_succ_of_le inductionHypothesis
    · exact Nat.le_refl _

/-- What stands behind the first character that is not dropped is shorter than the text. -/
theorem length_lt_of_dropWhile {kind : Char → Bool} {text rest : List Char} {first : Char}
    (kept : text.dropWhile kind = first :: rest) : rest.length < text.length := by
  have le := length_dropWhile_le kind text
  rw [kept, List.length_cons] at le
  exact le

/-- Takes the empty lines at the start of a line, and the blanks that the next line starts with. A
line that opens or closes a document may not stand within quotes. -/
def readBreaks (text : List Char) : Except YamlError (Piece text) :=
  if startsMarker text then .error .malformed
  else
    match blank : text.dropWhile isSpaceOrTab with
    | [] => .ok ⟨[], [], Nat.zero_le _⟩
    | character :: rest =>
      have rest_lt : rest.length < text.length := length_lt_of_dropWhile blank
      if isBreak character then
        (readBreaks rest).map fun piece =>
          (piece.precede [breakValue character]).widen (Nat.le_of_lt rest_lt)
      else .ok ⟨[], character :: rest, rest_lt⟩
termination_by text.length

/-- The value of a line end with empty lines behind it. -/
def foldBreaks (first : Char) (others : List Char) : List Char :=
  if breakValue first != '\n' then breakValue first :: others
  else if others.isEmpty then [' ']
  else others

/-! ## Escapes -/

/-- The character that an escape of one character stands for. -/
def escaped? (character : Char) : Option Char :=
  match character with
  | '0' => some (Char.ofNat 0)
  | 'a' => some (Char.ofNat 0x07)
  | 'b' => some (Char.ofNat 0x08)
  | 't' | '\t' => some '\t'
  | 'n' => some '\n'
  | 'v' => some (Char.ofNat 0x0B)
  | 'f' => some (Char.ofNat 0x0C)
  | 'r' => some '\r'
  | 'e' => some (Char.ofNat 0x1B)
  | ' ' | '"' | '\\' | '/' => some character
  | 'N' => some (Char.ofNat 0x85)
  | '_' => some (Char.ofNat 0xA0)
  | 'L' => some (Char.ofNat 0x2028)
  | 'P' => some (Char.ofNat 0x2029)
  | _ => none

/-- The count of hexadecimal digits behind the letter of an escape. -/
def codeLength? (character : Char) : Option Nat :=
  match character with
  | 'x' => some 2
  | 'u' => some 4
  | 'U' => some 8
  | _ => none

def hexNumber (digits : List Nat) : Nat := digits.foldl (fun value digit => 16 * value + digit) 0

/-- The character with a code; a code that belongs to no character by itself gives the replacement
character. -/
def characterOf (code : Nat) : Except YamlError Char :=
  if Nat.pow 2 31 ≤ code then .error .codeBeyondWord
  else if 0x110000 ≤ code then .error .noSuchCharacter
  else if 0xD800 ≤ code && code < 0xE000 then .ok (Char.ofNat 0xFFFD)
  else .ok (Char.ofNat code)

def readEscape : (text : List Char) → Except YamlError (Piece text)
  | [] => .error .malformed
  | character :: rest =>
    match escaped? character, codeLength? character with
    | some value, _ => .ok ⟨[value], rest, by simp⟩
    | none, some count =>
      match (rest.take count).mapM hexValue? with
      | none => .error .malformed
      | some digits =>
        if digits.length < count then .error .malformed
        else
          (characterOf (hexNumber digits)).map fun value =>
            ⟨[value], rest.drop count, by simp only [List.length_drop, List.length_cons]; omega⟩
    | none, none =>
      if isBreak character then
        (readBreaks rest).map fun piece => piece.widen (by simp)
      else .error .malformed

/-! ## Scalars -/

/-- The two kinds of quotes. -/
inductive QuoteStyle where
  | single
  | double
deriving DecidableEq, Repr

/-- The mark at both ends of a scalar. -/
def QuoteStyle.mark : QuoteStyle → Char
  | .single => '\''
  | .double => '"'

/-- Reads a scalar from behind its opening mark: its value, and what follows its closing mark. -/
def readQuoted (style : QuoteStyle) (text : List Char) :
    Except YamlError (List Char × List Char) :=
  let precede (value : List Char) (read : List Char × List Char) := (value ++ read.1, read.2)
  match text with
  | [] => .error .malformed
  | character :: rest =>
    if character == style.mark then
      match style, rest with
      | .single, '\'' :: rest => (readQuoted style rest).map (precede [character])
      | _, _ => .ok ([], rest)
    else if style == .double && character == '\\' then
      match readEscape rest with
      | .error error => .error error
      | .ok piece =>
        have := piece.rest_le
        (readQuoted style piece.rest).map (precede piece.value)
    else if isBreak character then
      match readBreaks rest with
      | .error error => .error error
      | .ok piece =>
        have := piece.rest_le
        (readQuoted style piece.rest).map (precede (foldBreaks character piece.value))
    else if isSpaceOrTab character && endsLine (rest.dropWhile isSpaceOrTab) then
      readQuoted style rest
    else (readQuoted style rest).map (precede [character])
termination_by text.length
decreasing_by all_goals simp only [List.length_cons]; omega

end HostResolver.Document.Yaml
