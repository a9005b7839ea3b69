import HostResolver.Document.Yaml.Number
import HostResolver.Document.Yaml.Timestamp

/-!
Meanings of scalars.

This module owns the decision which value a scalar stands for. One without quotes and without a tag
is a truth value, a number, null, a date, or else its text; a tag decides the kind of the value, and
then the text has to be one of that kind.
-/

namespace HostResolver.Document.Yaml

open HostResolver.Text

/-- What a scalar stands for. -/
inductive Meaning where
  /-- A value, or what is wrong with it. -/
  | value (value : Except YamlError Value)
  /-- The key under which a mapping takes over the entries of others. -/
  | merge
  /-- The sign for the value of a mapping, which is a text as a key and nothing elsewhere. -/
  | valueSign

def truthValue? (text : String) : Option Bool :=
  if ["yes", "Yes", "YES", "true", "True", "TRUE", "on", "On", "ON"].contains text then some true
  else if ["no", "No", "NO", "false", "False", "FALSE", "off", "Off", "OFF"].contains text then
    some false
  else none

/-- The truth value of a text in any case. -/
def truthOf (text : String) : Except YamlError Bool :=
  match truthValue? (lowered text) with
  | some value => .ok value
  | none => .error .notTruth

def isNullText (text : String) : Bool := ["", "~", "null", "Null", "NULL"].contains text

def dateOf (text : String) : Except YamlError Value :=
  match WrittenDate.read? text.toList with
  | some written => written.value
  | none => .error .notDate

/-! ## Bytes -/

/-- The six bits that a character stands for. -/
def sextet? (character : Char) : Option Nat :=
  let code := character.toNat
  if 65 ≤ code ∧ code ≤ 90 then some (code - 65)
  else if 97 ≤ code ∧ code ≤ 122 then some (code - 71)
  else if 48 ≤ code ∧ code ≤ 57 then some (code + 4)
  else if character = '+' then some 62
  else if character = '/' then some 63
  else none

/-- The bytes that groups of four characters write. Other characters do not count; padding ends the
text where it completes a group, given the count of characters of the group so far, the bits that
are left of it, and the marks of padding before. -/
def bytesOfGroups (place left padding : Nat) : List Char → Except YamlError (List UInt8)
  | [] => if place = 0 then .ok [] else .error .malformed
  | character :: rest =>
    if character = '=' then
      if 2 ≤ place ∧ 4 ≤ place + padding + 1 then .ok []
      else bytesOfGroups place left (if 2 ≤ place then padding + 1 else padding) rest
    else
      match sextet? character with
      | none => bytesOfGroups place left padding rest
      | some bits =>
        let byte := fun value => (UInt8.ofNat value :: ·)
        match place with
        | 0 => bytesOfGroups 1 bits 0 rest
        | 1 => (bytesOfGroups 2 (bits % 16) 0 rest).map (byte (left * 4 + bits / 16))
        | 2 => (bytesOfGroups 3 (bits % 4) 0 rest).map (byte (left * 16 + bits / 4))
        | _ => (bytesOfGroups 0 0 0 rest).map (byte (left * 64 + bits))

/-- The bytes that a text in ASCII writes. -/
def bytesOf (text : String) : Except YamlError (List UInt8) :=
  if text.toList.all fun character => character.toNat < 128 then
    bytesOfGroups 0 0 0 text.toList
  else .error .malformed

/-! ## All kinds -/

namespace Meaning

/-- What a scalar without quotes and without a tag stands for. -/
def ofText (text : String) : Meaning :=
  let characters := text.toList
  if text = "<<" then .merge
  else if text = "=" then .valueSign
  else if isNullText text then .value (.ok .null)
  else
    match truthValue? text with
    | some found => .value (.ok (.bool found))
    | none =>
      if isFloatText characters then .value ((floatOf characters).map Value.float)
      else if isWholeText characters then .value ((wholeOf characters).map Value.int)
      else
        match (WrittenDate.read? characters).filter WrittenDate.isPlain with
        | some written => .value written.value
        | none => .value (.ok (.text text))

/-- The start of the tags that are known. -/
def knownTag (name : String) : String := "tag:yaml.org,2002:" ++ name

/-- What a scalar stands for under a tag. -/
def ofTagged (tag text : String) : Meaning :=
  if tag = knownTag "str" then .value (.ok (.text text))
  else if tag = knownTag "null" then .value (.ok .null)
  else if tag = knownTag "bool" then .value ((truthOf text).map Value.bool)
  else if tag = knownTag "int" then .value ((wholeOf text.toList).map Value.int)
  else if tag = knownTag "float" then .value ((floatOf text.toList).map Value.float)
  else if tag = knownTag "timestamp" then .value (dateOf text)
  else if tag = knownTag "binary" then .value ((bytesOf text).map Value.bytes)
  else if tag = knownTag "merge" then .merge
  else if tag = knownTag "value" then .valueSign
  else .value (.error .malformed)

/-- What a scalar stands for, given the tag written on it and whether it has no quotes. -/
def ofScalar (tag : Option String) (plain : Bool) (text : String) : Meaning :=
  match tag with
  | none => if plain then ofText text else .value (.ok (.text text))
  | some "!" => ofText text
  | some tag => ofTagged tag text

end Meaning

end HostResolver.Document.Yaml
