import HostResolver.Text.Line
import HostResolver.Text.Utf8

/-!
Text files read in blocks.

This module owns what a reader sees of a file that is decoded block by block. The bytes of a
character that a block's end cuts in two are put in front of the next block, and so are two bytes
that begin a surrogate, though no third one can make a character of them. A block with a fault is
lost whole, so the text ends with the block before it; the position of a fault counts from the start
of the bytes that were decoded together. Bytes that are still held back when the file ends are a
fault of their own.
-/

namespace HostResolver.Text

/-- The number of bytes that are read at once. -/
def blockSize : Nat := 8192

/-- Cuts a list into blocks of `size + 1` elements, the last one possibly shorter. -/
def blocksOf (size : Nat) : List UInt8 → List (List UInt8)
  | [] => []
  | byte :: bytes => (byte :: bytes.take size) :: blocksOf size (bytes.drop size)
termination_by bytes => bytes.length
decreasing_by simp only [List.length_drop, List.length_cons]; omega

/-- What a reader sees of a file: the text up to the fault, and the fault if there is one. -/
structure Reading where
  text : List Char
  fault : Option Utf8.Fault
deriving DecidableEq, Repr

namespace Reading

/-- Puts text in front of what is read. -/
def precede (text : List Char) (reading : Reading) : Reading :=
  ⟨text ++ reading.text, reading.fault⟩

/-- Whether bytes are the first two of a surrogate. -/
def isCutSurrogate : List UInt8 → Bool
  | [first, second] => first == 0xED && 0xA0 ≤ second && Utf8.continues second
  | _ => false

/-- The fault of bytes that are held back when the file ends. -/
def faultAtEnd (carried : List UInt8) : Option Utf8.Fault :=
  match (Utf8.decode carried).ending with
  | .complete => none
  | .incomplete position bytes => some ⟨position, bytes, .unexpectedEnd⟩
  | .faulty fault => some fault

/-- Decodes blocks, given the bytes held back from the block before. -/
def ofBlocks (carried : List UInt8) : List (List UInt8) → Reading
  | [] => ⟨[], faultAtEnd carried⟩
  | block :: blocks =>
    let bytes := carried ++ block
    let decoded := Utf8.decode bytes
    match decoded.ending with
    | .complete => (ofBlocks [] blocks).precede decoded.text
    | .incomplete _ rest => (ofBlocks rest blocks).precede decoded.text
    | .faulty fault =>
      let rest := bytes.drop fault.position
      if isCutSurrogate rest then (ofBlocks rest blocks).precede decoded.text
      else ⟨[], some fault⟩

def ofBytes (bytes : List UInt8) : Reading := ofBlocks [] (blocksOf (blockSize - 1) bytes)

/-- The lines that are read before the fault, or all lines if there is none. -/
def lines (reading : Reading) : List (List Char) :=
  match reading.fault with
  | none => Text.lines reading.text
  | some _ => surelyEnded reading.text

end Reading

end HostResolver.Text
