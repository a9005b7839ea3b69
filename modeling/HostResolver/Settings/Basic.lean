import HostResolver.Servers.Order
import HostResolver.Text.Utf8

/-!
Settings in normal form.

This module owns the four settings of the library and their validation: which values are taken for
each of them, what is put in the place of an absent one, and the complaints about the others. Bytes
are taken for the text that they write in UTF-8. A path is trimmed and a blank one counts as none,
so a validated path is neither empty nor surrounded by blanks.

It does not own where the values come from, which is `HostResolver.Settings.Source`.
-/

namespace HostResolver.Settings

open HostResolver.Document HostResolver.Number HostResolver.Servers HostResolver.Text

/-- The settings. -/
structure ResolverSettings where
  /-- The primary file; none to go without one. -/
  resolvConf : Option String := some "/etc/resolv.conf"
  /-- The directory of override files; none to go without one. -/
  resolverDir : Option String := some "/etc/resolver"
  addressOrder : Order := .random
  /-- How records are logged; every key is a text. -/
  logging : Entries := []

/-- The settings by name. -/
inductive Field where
  | resolvConf
  | resolverDir
  | addressOrder
  | logging
deriving DecidableEq, Repr

namespace Field

def all : List Field := [.resolvConf, .resolverDir, .addressOrder, .logging]

def name : Field → String
  | .resolvConf => "resolv_conf"
  | .resolverDir => "resolver_dir"
  | .addressOrder => "address_order"
  | .logging => "logging"

end Field

/-- Why a value is not taken for a setting. -/
inductive Complaint where
  | notText (field : Field)
  | notUnicode (field : Field)
  /-- The text names no order of addresses. -/
  | unknownOrder
  | notMapping
  /-- A key of the mapping is not a text. -/
  | keyNotText (key : Value)
  /-- A key of the mapping is bytes that write no text. -/
  | keyNotUnicode (key : Value)
deriving Repr

namespace Complaint

/-- A key in the place of a complaint: a number that fits a machine word stands for itself, anything
else for its quoted form. -/
def shownKey : Value → Value
  | .bool value => .int (if value then 1 else 0)
  | .int value =>
    if -Int.pow 2 63 ≤ value ∧ value < Int.pow 2 63 then .int value
    else .text (if isWritable value then shownInt value else "<unprintable int object>")
  | key => .text key.quoted

/-- Where the value that is complained about stands. -/
def location : Complaint → List Value
  | .notText field | .notUnicode field => [.text field.name]
  | .unknownOrder => [.text Field.addressOrder.name]
  | .notMapping => [.text Field.logging.name]
  | .keyNotText key | .keyNotUnicode key =>
    [.text Field.logging.name, shownKey key, .text "[key]"]

def code : Complaint → String
  | .notText _ | .keyNotText _ => "string_type"
  | .notUnicode _ | .keyNotUnicode _ => "string_unicode"
  | .unknownOrder => "value_error"
  | .notMapping => "dict_type"

def message : Complaint → String
  | .notText _ | .keyNotText _ => "Input should be a valid string"
  | .notUnicode _ | .keyNotUnicode _ =>
    "Input should be a valid string, unable to parse raw data as a unicode string"
  | .unknownOrder => s!"Value error, {Field.addressOrder.name} must be one of {Order.names}"
  | .notMapping => "Input should be a valid dictionary"

end Complaint

/-- A checked value, or the complaints about it. -/
abbrev Checked (α : Type) := Except (List Complaint) α

def complaintsOf {α : Type} : Checked α → List Complaint
  | .ok _ => []
  | .error complaints => complaints

/-- A path without the blanks around it; none if nothing is left. -/
def pathOf (text : String) : Option String :=
  if (trimmed text).isEmpty then none else some (trimmed text)

def textOfBytes? (bytes : List UInt8) : Option String :=
  let decoded := Utf8.decode bytes
  match decoded.ending with
  | .complete => some (String.ofList decoded.text)
  | _ => none

def checkText (field : Field) : Value → Checked String
  | .text text => .ok text
  | .bytes bytes =>
    match textOfBytes? bytes with
    | some text => .ok text
    | none => .error [.notUnicode field]
  | _ => .error [.notText field]

def checkPath (field : Field) : Value → Checked (Option String)
  | .null => .ok none
  | value => (checkText field value).map pathOf

def checkOrder (value : Value) : Checked Order :=
  match checkText .addressOrder value with
  | .error complaints => .error complaints
  | .ok text =>
    match Order.read? text with
    | some order => .ok order
    | none => .error [.unknownOrder]

def checkKey : Value → Except Complaint String
  | .text text => .ok text
  | .bytes bytes =>
    match textOfBytes? bytes with
    | some text => .ok text
    | none => .error (.keyNotUnicode (.bytes bytes))
  | key => .error (.keyNotText key)

/-- The complaints about the keys of a mapping. -/
def keyComplaints : Entries → List Complaint
  | [] => []
  | (key, _) :: entries =>
    match checkKey key with
    | .ok _ => keyComplaints entries
    | .error complaint => complaint :: keyComplaints entries

/-- Entries with texts for keys. An entry whose key is no text is left out; of several entries with
one key the last one counts, at the place of the first. -/
def namedEntries (entries : Entries) : Entries :=
  entries.foldl (fun named entry =>
    match checkKey entry.1 with
    | .ok name => Entries.set named (.text name) entry.2
    | .error _ => named) []

def checkMapping : Value → Checked Entries
  | .mapping entries =>
    if (keyComplaints entries).isEmpty then .ok (namedEntries entries)
    else .error (keyComplaints entries)
  | _ => .error [.notMapping]

/-- Checks the value of a setting, or takes its default if it is absent. -/
def checkField {α : Type} (entries : Entries) (field : Field) (default : α)
    (check : Value → Checked α) : Checked α :=
  match entries.get? field.name with
  | none => .ok default
  | some value => check value

namespace ResolverSettings

/-- Checks values for all settings. Other entries are passed over; the complaints stand in the order
of the settings. -/
def validate (entries : Entries) : Checked ResolverSettings :=
  let defaults : ResolverSettings := {}
  let resolvConf :=
    checkField entries .resolvConf defaults.resolvConf (checkPath .resolvConf)
  let resolverDir :=
    checkField entries .resolverDir defaults.resolverDir (checkPath .resolverDir)
  let addressOrder := checkField entries .addressOrder defaults.addressOrder checkOrder
  let logging := checkField entries .logging defaults.logging checkMapping
  match resolvConf, resolverDir, addressOrder, logging with
  | .ok resolvConf, .ok resolverDir, .ok addressOrder, .ok logging =>
    .ok ⟨resolvConf, resolverDir, addressOrder, logging⟩
  | resolvConf, resolverDir, addressOrder, logging =>
    .error (complaintsOf resolvConf ++ complaintsOf resolverDir ++ complaintsOf addressOrder ++
      complaintsOf logging)

/-- A path as the value of a setting. -/
def pathValue : Option String → Value
  | none => .null
  | some path => .text path

/-- The settings as the values that they were checked from. -/
def toEntries (settings : ResolverSettings) : Entries :=
  [(.text Field.resolvConf.name, pathValue settings.resolvConf),
    (.text Field.resolverDir.name, pathValue settings.resolverDir),
    (.text Field.addressOrder.name, .text settings.addressOrder.name),
    (.text Field.logging.name, .mapping settings.logging)]

end ResolverSettings

end HostResolver.Settings
