import HostResolver.Text.Numeral
import HostResolver.Text.Quoted
import HostResolver.Time.LocalTime

/-!
Values of settings documents.

This module owns the one dynamic type of the library: what a settings file, or a caller that passes
settings on, can hold. It owns when a value counts as switched on, when two values are the same key
of a mapping, the look-up of named entries, and the two texts of a value: as shown inside a sentence
and as quoted in a message. A whole number of too many digits has no text, and neither has what
holds one.
-/

namespace HostResolver.Document

open HostResolver.Number HostResolver.Text HostResolver.Time

/-- A value of a document. The entries of a mapping keep the order in which their keys came first;
a key may be any value. -/
inductive Value where
  | null
  | bool (value : Bool)
  | int (value : Int)
  | float (value : Binary64)
  | text (value : String)
  | date (value : Date)
  | time (value : LocalTime)
  | bytes (value : List UInt8)
  | list (items : List Value)
  | mapping (entries : List (Value × Value))
deriving Repr, Inhabited

abbrev Entries := List (Value × Value)

namespace Value

/-- Whether a value switches something on: not so null, false, zeros and whatever is empty. -/
def isOn : Value → Bool
  | .null => false
  | .bool value => value
  | .int value => value != 0
  | .float value => !value.isZero
  | .text value => !value.isEmpty
  | .date _ | .time _ => true
  | .bytes value => !value.isEmpty
  | .list items => !items.isEmpty
  | .mapping entries => !entries.isEmpty

def isNull : Value → Bool
  | .null => true
  | _ => false

/-- The number that a value stands for as a key: the two booleans are one and zero. -/
def keyNumber? : Value → Option Rat
  | .bool value => some (if value then 1 else 0)
  | .int value => some value
  | .float value => value.toRat?
  | _ => none

/-- Whether two values are the same key of a mapping: equal numbers of any kind, equal infinities,
texts, bytes, dates, times or nulls. A float that is not a number equals nothing. -/
def sameKey (left right : Value) : Bool :=
  match left, right with
  | .null, .null => true
  | .text first, .text second => first == second
  | .bytes first, .bytes second => first == second
  | .date first, .date second => first == second
  | .time first, .time second => first.same second
  | .float (.infinite first), .float (.infinite second) => first == second
  | _, _ =>
    match left.keyNumber?, right.keyNumber? with
    | some first, some second => first == second
    | _, _ => false

/-- Whether a value can be a key of a mapping. -/
def isKey : Value → Bool
  | .list _ => false
  | .mapping _ => false
  | _ => true

end Value

/-! ## Entries -/

namespace Entries

def get? (entries : Entries) (name : String) : Option Value :=
  match entries with
  | [] => none
  | (key, value) :: rest =>
    match key with
    | .text found => if found = name then some value else get? rest name
    | _ => get? rest name

/-- The entries with a value under a key: the value replaces the one that the same key had, or comes
last. -/
def set (entries : Entries) (key value : Value) : Entries :=
  match entries with
  | [] => [(key, value)]
  | (other, old) :: rest =>
    if other.sameKey key then (other, value) :: rest else (other, old) :: set rest key value

end Entries

/-! ## Texts -/

namespace Value

mutual

/-- A value as a message quotes it. -/
def quoted : Value → String
  | .null => "None"
  | .bool value => if value then "True" else "False"
  | .int value => shownInt value
  | .float value => value.shortest
  | .text value => Text.quoted value
  | .date value => s!"datetime.date({value.year}, {value.month}, {value.day})"
  | .time value => value.described
  | .bytes value => Text.quotedBytes value
  | .list items => "[" ++ ", ".intercalate (quotedItems items) ++ "]"
  | .mapping entries => "\x7b" ++ ", ".intercalate (quotedEntries entries) ++ "\x7d"

def quotedItems : List Value → List String
  | [] => []
  | item :: items => item.quoted :: quotedItems items

def quotedEntries : List (Value × Value) → List String
  | [] => []
  | (key, value) :: entries => s!"{key.quoted}: {value.quoted}" :: quotedEntries entries

end

/-- A value as it is shown inside a sentence: a text as it is, anything else as it is quoted, except
that a date stands as year, month and day, with the time of day behind it if it has one. -/
def shown : Value → String
  | .text value => value
  | .date value => value.shown
  | .time value => value.shown " "
  | value => value.quoted

mutual

/-- Whether a value has texts. -/
def hasText : Value → Bool
  | .int value => isWritable value
  | .list items => allHaveText items
  | .mapping entries => entriesHaveText entries
  | _ => true

def allHaveText : List Value → Bool
  | [] => true
  | item :: items => item.hasText && allHaveText items

def entriesHaveText : List (Value × Value) → Bool
  | [] => true
  | (key, value) :: entries => key.hasText && value.hasText && entriesHaveText entries

end

/-- A value as it is shown inside a sentence, if it has a text. -/
def shown? (value : Value) : Option String := if value.hasText then some value.shown else none

/-- A value as a message quotes it, if it has a text. -/
def quoted? (value : Value) : Option String := if value.hasText then some value.quoted else none

end Value

end HostResolver.Document
