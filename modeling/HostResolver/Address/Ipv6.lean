import HostResolver.Address.Ipv4
import HostResolver.Text.Quoted

/-!
IPv6 addresses, with or without a zone.

This module owns the value, the texts that are read as an address, and the one text that is written.
An address is read from eight groups of one to four hexadecimal digits, or from fewer with a double
colon for the missing zeros, the last two groups possibly as an IPv4 address. It is written in lower
case without zeros in front, with the first of the longest runs of two or more zero groups left out.
A zone follows a per cent sign and is kept as it is.
-/

namespace HostResolver.Address

open HostResolver.Text

/-- Whether a text can be a zone: not empty, and without a per cent sign and a slash. -/
def isZone (text : List Char) : Bool :=
  !text.isEmpty && !text.contains '%' && !text.contains '/'

/-- The zone in which an address is valid. -/
structure Zone where
  text : List Char
  valid : isZone text = true
deriving DecidableEq, Repr

/-- An IPv6 address: eight groups of sixteen bits, and the zone if one is named. -/
structure Ipv6 where
  groups : Vector UInt16 8
  zone : Option Zone
deriving DecidableEq, Repr

namespace Ipv6

/-! ## Reading -/

/-- Reads one group: one to four hexadecimal digits. -/
def readGroup? (text : List Char) : Option UInt16 :=
  if text.isEmpty || 4 < text.length then none
  else (text.mapM hexValue?).map fun digits =>
    UInt16.ofNat (digits.foldl (fun value digit => 16 * value + digit) 0)

/-- Reads what stands between two colons: a group, or nothing. -/
def readCell? (text : List Char) : Option (Option UInt16) :=
  if text.isEmpty then some none else (readGroup? text).map some

/-- Reads the fields between colons. The last one may be an IPv4 address. -/
def readCells? : List (List Char) → Option (List (Option UInt16))
  | [] => some []
  | [last] =>
    if last.contains '.' then (Ipv4.read? last).map fun address => address.groups.map some
    else (readCell? last).map fun cell => [cell]
  | field :: rest => do return (← readCell? field) :: (← readCells? rest)

/-- The groups behind a double colon, which may be none at all. -/
def lowGroups? : List (Option UInt16) → Option (List UInt16)
  | [none] => some []
  | [] => none
  | cells => cells.mapM id

/-- Eight groups from those before and behind a double colon, which stands for one zero at least. -/
def fill? (high low : List UInt16) : Option (Vector UInt16 8) :=
  let groups := high ++ List.replicate (8 - (high.length + low.length)) 0 ++ low
  if bounded : high.length + low.length < 8 then
    some ⟨groups.toArray, by simp [groups]; omega⟩
  else none

def exactly? (groups : List UInt16) : Option (Vector UInt16 8) :=
  if eight : groups.length = 8 then some ⟨groups.toArray, by simpa using eight⟩ else none

/-- The groups that stand in front, and the cells behind them. -/
def leadingGroups : List (Option UInt16) → List UInt16 × List (Option UInt16)
  | some group :: cells =>
    let leading := leadingGroups cells
    (group :: leading.1, leading.2)
  | cells => ([], cells)

/-- Puts the cells of an address together. -/
def assemble? (cells : List (Option UInt16)) : Option (Vector UInt16 8) :=
  match cells with
  | none :: none :: rest => (lowGroups? rest).bind (fill? [])
  | none :: _ => none
  | _ =>
    match leadingGroups cells with
    | (high, []) => exactly? high
    | (high, _ :: rest) => (lowGroups? rest).bind (fill? high)

def readGroups? (text : List Char) : Option (Vector UInt16 8) :=
  (readCells? (fields ':' text)).bind assemble?

def readZone? (text : List Char) : Option Zone :=
  if valid : isZone text = true then some ⟨text, valid⟩ else none

def read? (text : List Char) : Option Ipv6 :=
  match cutAtFirst? '%' text with
  | none => (readGroups? text).map fun groups => ⟨groups, none⟩
  | some (before, after) => do return ⟨← readGroups? before, some (← readZone? after)⟩

/-! ## Writing -/

/-- A number below 65536 in hexadecimal digits, without zeros in front. -/
def groupChars (group : UInt16) : List Char :=
  let digits := (hexDigits 4 group.toNat).dropWhile (· == '0')
  if digits.isEmpty then ['0'] else digits

/-- The count of zeros at the front. -/
def leadingZeros (groups : List UInt16) : Nat := (groups.takeWhile (· == 0)).length

/-- Where the first of the longest runs of zeros starts, and how long it is. -/
def longestZeros : List UInt16 → Nat × Nat
  | [] => (0, 0)
  | group :: groups =>
    let here := leadingZeros (group :: groups)
    let later := longestZeros groups
    if later.2 ≤ here then (0, here) else (later.1 + 1, later.2)

def joined (groups : List UInt16) : List Char := [':'].intercalate (groups.map groupChars)

def groupsChars (groups : List UInt16) : List Char :=
  let zeros := longestZeros groups
  if 2 ≤ zeros.2 then
    joined (groups.take zeros.1) ++ ':' :: ':' :: joined (groups.drop (zeros.1 + zeros.2))
  else joined groups

def chars (address : Ipv6) : List Char :=
  match address.zone with
  | none => groupsChars address.groups.toList
  | some zone => groupsChars address.groups.toList ++ '%' :: zone.text

end Ipv6

end HostResolver.Address
