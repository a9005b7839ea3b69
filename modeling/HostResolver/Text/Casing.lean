/-!
Letter case, as far as names in ASCII are compared without regard to it.

This module owns the two folds that the library needs. Lowering touches ASCII letters alone, which
decides every comparison with a lower-case ASCII name that has no letter k: no other character has
a lower case in ASCII but the Kelvin sign. Raising also knows the ten characters outside ASCII
whose upper case lies in it.
-/

namespace HostResolver.Text

/-- A text in lower case, as far as ASCII goes. -/
def lowered (text : String) : String := String.ofList (text.toList.map Char.toLower)

/-- The upper case of a character, as far as it lies in ASCII. -/
def raiseChar (character : Char) : List Char :=
  match character.toNat with
  | 0xDF => ['S', 'S']
  | 0x131 => ['I']
  | 0x17F => ['S']
  | 0xFB00 => ['F', 'F']
  | 0xFB01 => ['F', 'I']
  | 0xFB02 => ['F', 'L']
  | 0xFB03 => ['F', 'F', 'I']
  | 0xFB04 => ['F', 'F', 'L']
  | 0xFB05 | 0xFB06 => ['S', 'T']
  | _ => [character.toUpper]

/-- A text in upper case, as far as it lies in ASCII. -/
def raised (text : String) : String := String.ofList (text.toList.flatMap raiseChar)

end HostResolver.Text
