/-!
Blank characters, trimming and words.

This module owns the one notion of white space that every reader of the library shares: the
characters that are trimmed from both ends of a line and that separate its words. It does not own
line ends, which are `HostResolver.Text.Line`.

A byte order mark (U+FEFF) and a zero width space (U+200B) are not blank.
-/

namespace HostResolver.Text

/-- White space: the ASCII blanks and line ends, the four information separators, next line, and
the space, line and paragraph separators of Unicode. -/
def isBlank (character : Char) : Bool :=
  let code := character.toNat
  (0x09 ≤ code && code ≤ 0x0D) || (0x1C ≤ code && code ≤ 0x20) || code == 0x85 || code == 0xA0 ||
    code == 0x1680 || (0x2000 ≤ code && code ≤ 0x200A) || code == 0x2028 || code == 0x2029 ||
    code == 0x202F || code == 0x205F || code == 0x3000

/-- Whether a character belongs to a word. -/
def isInk (character : Char) : Bool := !isBlank character

/-- The text without the blanks in front of it. -/
def trimStart (text : List Char) : List Char := text.dropWhile isBlank

/-- The text without the blanks behind it. -/
def trimEnd (text : List Char) : List Char := (text.reverse.dropWhile isBlank).reverse

/-- The text without the blanks at either end. -/
def trim (text : List Char) : List Char := trimEnd (trimStart text)

def startsWithInk : List Char → Bool
  | [] => false
  | character :: _ => isInk character

/-- Puts a character in front of the first word. -/
def extendFirst (character : Char) : List (List Char) → List (List Char)
  | [] => [[character]]
  | word :: others => (character :: word) :: others

/-- The maximal runs of ink, in order. Blanks at the ends and repeated blanks make no empty word. -/
def words : List Char → List (List Char)
  | [] => []
  | character :: rest =>
    if isBlank character then words rest
    else if startsWithInk rest then extendFirst character (words rest)
    else [character] :: words rest

/-- The first word of a text and what follows it from the next ink on; nothing if the text is
blank. Blanks at the very end stay with what follows. -/
def firstWord? (text : List Char) : Option (List Char × List Char) :=
  match trimStart text with
  | [] => none
  | start => some (start.takeWhile isInk, trimStart (start.dropWhile isInk))

/-- The string without the blanks at either end. -/
def trimmed (text : String) : String := String.ofList (trim text.toList)

/-! ## Small lemmas -/

@[simp] theorem words_nil : words [] = [] := rfl

theorem words_cons_of_isBlank {character : Char} (blank : isBlank character = true)
    (rest : List Char) : words (character :: rest) = words rest := by
  rw [words, if_pos blank]

end HostResolver.Text
