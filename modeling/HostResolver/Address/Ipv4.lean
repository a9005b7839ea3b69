import HostResolver.Number.Shortest
import HostResolver.Text.Field

/-!
IPv4 addresses.

This module owns the value and its one text: four decimal octets between points, none above 255 and
none with a zero in front.
-/

namespace HostResolver.Address

open HostResolver.Number HostResolver.Text

/-- An IPv4 address. -/
structure Ipv4 where
  first : UInt8
  second : UInt8
  third : UInt8
  fourth : UInt8
deriving DecidableEq, Repr

/-- Whether a character is a decimal digit of ASCII. -/
def isDigit (character : Char) : Bool := '0' ≤ character && character ≤ '9'

/-- The value of a decimal digit of ASCII. -/
def digitValue (character : Char) : Nat := character.toNat - 48

/-- The number that digits of ASCII write. -/
def decimalValue (digits : List Char) : Nat :=
  digits.foldl (fun value digit => 10 * value + digitValue digit) 0

namespace Ipv4

/-- Reads one octet: one to three digits, without a zero in front of another digit. -/
def readOctet? (text : List Char) : Option UInt8 :=
  if text.isEmpty || !text.all isDigit || 3 < text.length then none
  else if text.head? == some '0' && text.length != 1 then none
  else if 255 < decimalValue text then none
  else some (UInt8.ofNat (decimalValue text))

def read? (text : List Char) : Option Ipv4 :=
  match (fields '.' text).map readOctet? with
  | [some first, some second, some third, some fourth] => some ⟨first, second, third, fourth⟩
  | _ => none

def chars (address : Ipv4) : List Char :=
  digitChars address.first.toNat ++ '.' :: digitChars address.second.toNat ++
    '.' :: digitChars address.third.toNat ++ '.' :: digitChars address.fourth.toNat

/-- The two groups of sixteen bits that an address fills at the end of an IPv6 address. -/
def groups (address : Ipv4) : List UInt16 :=
  [address.first.toUInt16 * 256 + address.second.toUInt16,
    address.third.toUInt16 * 256 + address.fourth.toUInt16]

end Ipv4

end HostResolver.Address
