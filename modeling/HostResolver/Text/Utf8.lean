import HostResolver.Text.Quoted

/-!
UTF-8, decoded with the place and the reason of the first fault.

This module owns the decoder. It accepts the shortest form of every Unicode scalar value and
nothing else. What it cannot decode is either a fault, which no further byte can mend, or the
beginning of a character whose remaining bytes have not come yet.

It does not own files read in blocks, which are `HostResolver.Text.Reading`.
-/

namespace HostResolver.Text.Utf8

/-- Why bytes are not UTF-8. -/
inductive Reason where
  /-- No character begins with this byte. -/
  | invalidStart
  /-- The character is broken off by a byte that does not continue it. -/
  | invalidContinuation
  /-- The bytes end inside a character. -/
  | unexpectedEnd
deriving DecidableEq, Repr

/-- The first fault in a run of bytes: where it stands, which bytes it covers, and why. -/
structure Fault where
  position : Nat
  bytes : List UInt8
  reason : Reason
deriving DecidableEq, Repr

/-- What decoding meets behind the last whole character. -/
inductive Ending where
  | complete
  /-- The beginning of a character that more bytes may complete. -/
  | incomplete (position : Nat) (bytes : List UInt8)
  | faulty (fault : Fault)
deriving DecidableEq, Repr

/-- Characters and what stands behind them. -/
structure Decoded where
  text : List Char
  ending : Ending
deriving DecidableEq, Repr

def continues (byte : UInt8) : Bool := 0x80 ≤ byte && byte ≤ 0xBF

/-- Whether a second byte may follow the first byte of a three-byte character: not so for a value
that two bytes can write, nor for a surrogate. -/
def secondOfThree (first second : UInt8) : Bool :=
  continues second && !(first == 0xE0 && second < 0xA0) && !(first == 0xED && 0xA0 ≤ second)

/-- Whether a second byte may follow the first byte of a four-byte character: not so for a value
that three bytes can write, nor for one above U+10FFFF. -/
def secondOfFour (first second : UInt8) : Bool :=
  continues second && !(first == 0xF0 && second < 0x90) && !(first == 0xF4 && 0x90 ≤ second)

/-- The payload of a byte that continues a character. -/
def payload (byte : UInt8) : Nat := byte.toNat % 64

def charOfTwo (first second : UInt8) : Char :=
  Char.ofNat ((first.toNat % 32) * 64 + payload second)

def charOfThree (first second third : UInt8) : Char :=
  Char.ofNat ((first.toNat % 16) * 4096 + payload second * 64 + payload third)

def charOfFour (first second third fourth : UInt8) : Char :=
  Char.ofNat ((first.toNat % 8) * 262144 + payload second * 4096 + payload third * 64 +
    payload fourth)

/-- Puts a character in front of what is decoded. -/
def Decoded.extend (character : Char) (decoded : Decoded) : Decoded :=
  ⟨character :: decoded.text, decoded.ending⟩

def Decoded.fault (position : Nat) (bytes : List UInt8) (reason : Reason) : Decoded :=
  ⟨[], .faulty ⟨position, bytes, reason⟩⟩

/-- Nothing decoded but the beginning of a character. -/
def Decoded.cutOff (position : Nat) (bytes : List UInt8) : Decoded :=
  ⟨[], .incomplete position bytes⟩

/-- Decodes bytes of which the first stands at `position`. -/
def decodeFrom (position : Nat) : List UInt8 → Decoded
  | [] => ⟨[], .complete⟩
  | first :: rest =>
    if first < 0x80 then (decodeFrom (position + 1) rest).extend (Char.ofNat first.toNat)
    else if first < 0xC2 then .fault position [first] .invalidStart
    else if first < 0xE0 then
      match rest with
      | [] => .cutOff position [first]
      | second :: rest =>
        if !continues second then .fault position [first] .invalidContinuation
        else (decodeFrom (position + 2) rest).extend (charOfTwo first second)
    else if first < 0xF0 then
      match rest with
      | [] => .cutOff position [first]
      | second :: rest =>
        if !secondOfThree first second then .fault position [first] .invalidContinuation
        else
          match rest with
          | [] => .cutOff position [first, second]
          | third :: rest =>
            if !continues third then .fault position [first, second] .invalidContinuation
            else (decodeFrom (position + 3) rest).extend (charOfThree first second third)
    else if first < 0xF5 then
      match rest with
      | [] => .cutOff position [first]
      | second :: rest =>
        if !secondOfFour first second then .fault position [first] .invalidContinuation
        else
          match rest with
          | [] => .cutOff position [first, second]
          | third :: rest =>
            if !continues third then .fault position [first, second] .invalidContinuation
            else
              match rest with
              | [] => .cutOff position [first, second, third]
              | fourth :: rest =>
                if !continues fourth then
                  .fault position [first, second, third] .invalidContinuation
                else
                  (decodeFrom (position + 4) rest).extend (charOfFour first second third fourth)
    else .fault position [first] .invalidStart

/-- Decodes bytes from the first one on. -/
def decode (bytes : List UInt8) : Decoded := decodeFrom 0 bytes

def Reason.message : Reason → String
  | .invalidStart => "invalid start byte"
  | .invalidContinuation => "invalid continuation byte"
  | .unexpectedEnd => "unexpected end of data"

/-- The words for a fault: a single byte is shown, several are named by their positions. -/
def Fault.message (fault : Fault) : String :=
  match fault.bytes with
  | [byte] =>
    s!"'utf-8' codec can't decode byte 0x{String.ofList (hexDigits 2 byte.toNat)} " ++
      s!"in position {fault.position}: " ++
      fault.reason.message
  | bytes =>
    s!"'utf-8' codec can't decode bytes in position {fault.position}-" ++
      s!"{fault.position + bytes.length - 1}: {fault.reason.message}"

end HostResolver.Text.Utf8
