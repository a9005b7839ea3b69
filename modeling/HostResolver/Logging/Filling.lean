import HostResolver.Logging.Conversion

/-!
Templates filled in with arguments.

This module owns the order in which arguments are used. Arguments without names are used one by one
and all of them have to be used. Of named arguments a conversion takes the one that it names; one
that names none takes the last one that was named and not yet used, at first all of them together.
-/

namespace HostResolver.Logging

open HostResolver.Document

/-- The arguments of a template. -/
inductive Arguments where
  /-- Arguments without names that are still to be used. -/
  | positional (values : List Argument)
  /-- Named arguments, and the argument that a conversion without a name takes. -/
  | named (entries : List (String × Argument)) (pending : Option Argument)

namespace Arguments

/-- An entry of a mapping as a named argument, if its key is a text. -/
def ofEntry? (entry : Value × Value) : Option (String × Argument) :=
  match entry.1 with
  | .text name => some (name, .value entry.2)
  | _ => none

/-- The arguments of a list: a mapping that stands alone and is not empty names them. -/
def ofList : List Value → Arguments
  | [.mapping (entry :: entries)] =>
    .named ((entry :: entries).filterMap ofEntry?) (some (.value (.mapping (entry :: entries))))
  | values => .positional (values.map .value)

def next : Arguments → Except TemplateError (Argument × Arguments)
  | .positional [] => .error .tooFew
  | .positional (value :: values) => .ok (value, .positional values)
  | .named _ none => .error .tooFew
  | .named entries (some value) => .ok (value, .named entries none)

/-- Puts the argument that is named next, if one is. -/
def select (arguments : Arguments) (key : ConversionKey) : Except TemplateError Arguments :=
  match key, arguments with
  | .absent, arguments => .ok arguments
  | _, .positional _ => .error .notNamed
  | .unclosed, .named _ _ => .error .incompleteKey
  | .named name, .named entries _ =>
    match entries.lookup name with
    | some value => .ok (.named entries (some value))
    | none => .error (.noSuchKey name)

def areUsed : Arguments → Bool
  | .positional values => values.isEmpty
  | .named _ _ => true

/-- The number of an extent, taken from the arguments if it has to be. An argument is refused if it
lies beyond `largest`. -/
def extent (arguments : Arguments) (largest : Nat) (tooBig beyond : TemplateError) :
    Extent → Except TemplateError (Option Int × Arguments)
  | .absent => .ok (none, arguments)
  | .given value => .ok (some value, arguments)
  | .tooBig => .error tooBig
  | .argument => do
    let (value, arguments) ← arguments.next
    let value ← Conversion.ofValue Conversion.wholeOf value
    if largest < value ∨ value < -largest - 1 then throw beyond
    return (some value, arguments)

def widthOf (arguments : Arguments) (width : Extent) :
    Except TemplateError (Option Int × Arguments) :=
  arguments.extent Conversion.maxWidth .widthTooBig .widthBeyondWord width

def precisionOf (arguments : Arguments) (precision : Extent) :
    Except TemplateError (Option Int × Arguments) :=
  arguments.extent Conversion.maxPrecision .precisionTooBig .precisionBeyondWord precision

end Arguments

/-- The number of characters that a width asks for. The least width that can be given asks for
none, since its opposite cannot be given. -/
def Conversion.columns (width : Int) : Nat :=
  if width = -Int.pow 2 63 then 0 else width.natAbs

/-- The result of a conversion, and the arguments that are left. -/
def Conversion.fill (conversion : Conversion) (arguments : Arguments) :
    Except TemplateError (List Char × Arguments) := do
  let arguments ← arguments.select conversion.key
  let (width, arguments) ← arguments.widthOf conversion.width
  let (precision, arguments) ← arguments.precisionOf conversion.precision
  match conversion.letter with
  | none => throw .incomplete
  | some (letter, place) =>
    let (value, arguments) ← arguments.next
    let rendered ← render conversion.flags (precision.map Int.toNat) letter place value
    let width := width.getD 0
    let flags :=
      if width < 0 then { conversion.flags with left := true } else conversion.flags
    checkLength (columns width)
    return (rendered.fill flags (columns width), arguments)

namespace Template

def fillPieces (arguments : Arguments) : Template → Except TemplateError (List Char)
  | [] => if arguments.areUsed then .ok [] else .error .tooMany
  | .literal character :: pieces => (fillPieces arguments pieces).map (character :: ·)
  | .conversion conversion :: pieces => do
    let (text, arguments) ← conversion.fill arguments
    return text ++ (← fillPieces arguments pieces)

def fill (template : String) (arguments : Arguments) : Except TemplateError String :=
  (fillPieces arguments (ofText template)).map String.ofList

end Template

end HostResolver.Logging
