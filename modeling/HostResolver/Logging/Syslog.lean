import HostResolver.Document.Value
import HostResolver.Text.Casing
import HostResolver.Text.Numeral

/-!
Where the system log is reached.

This module owns the reading of a `syslog` setting: the address of the system log, a socket by path
or a host and a port, and the facility under which records are filed. A setting that is no mapping
asks for the local socket and the facility of users.
-/

namespace HostResolver.Logging

open HostResolver.Document HostResolver.Number HostResolver.Text

/-- The address of the system log. -/
inductive SyslogAddress where
  | network (host : String) (port : Int)
  /-- A value that is handed on as it is, the path of a socket as a rule. -/
  | direct (value : Value)

/-- The system log as records reach it. -/
structure SyslogTarget where
  address : SyslogAddress
  facility : Nat

/-- Why an address is none. -/
inductive SyslogError where
  /-- A host or a port is missing. -/
  | missingPart
  /-- The port is a text that is no whole number. -/
  | malformedPort (text : String)
  /-- The port is bytes that write no whole number. -/
  | malformedBytes (bytes : List UInt8)
  /-- The port is a numeral of too many digits. -/
  | tooManyDigits (digits : Nat)
  /-- The port is not a number. -/
  | notNumber
  | infinite
  /-- The port is of no kind that has a whole number. -/
  | wrongKind
  /-- The host or the facility has no text. -/
  | unwritable
deriving DecidableEq, Repr

/-- The length of a quoted text beyond which it is cut off. -/
def maxQuotedLength : Nat := 200

/-- The words for an address that is none; none where its parts do not fit. -/
def SyslogError.message? : SyslogError → Option String
  | .missingPart | .wrongKind => none
  | .malformedPort text =>
    let shown := String.ofList ((quoted text).toList.take maxQuotedLength)
    some s!"invalid literal for int() with base 10: {shown}"
  | .malformedBytes bytes =>
    let shown := quotedBytes (bytes.take maxQuotedLength)
    some ("invalid literal for int() with base 10: " ++
      String.ofList (shown.toList.take maxQuotedLength))
  | .tooManyDigits digits => some (Text.tooManyDigits digits)
  | .unwritable => some Text.unwritable
  | .notNumber => some "cannot convert float NaN to integer"
  | .infinite => some "cannot convert float infinity to integer"

namespace SyslogTarget

/-- The socket of the system log on this host. -/
def localSocket : Value := .text "/dev/log"

def userFacility : Nat := 1

/-- Facilities and priorities by name; a few names stand for numbers of both kinds. -/
def codes : List (String × Nat) := [
  ("EMERG", 0), ("ALERT", 1), ("CRIT", 2), ("ERR", 3), ("WARNING", 4), ("NOTICE", 5), ("INFO", 6),
  ("DEBUG", 7), ("KERN", 0), ("USER", 1), ("MAIL", 2), ("DAEMON", 3), ("AUTH", 4), ("SYSLOG", 5),
  ("LPR", 6), ("NEWS", 7), ("UUCP", 8), ("CRON", 9), ("AUTHPRIV", 10), ("FTP", 11), ("NTP", 12),
  ("SECURITY", 13), ("CONSOLE", 14), ("SOLCRON", 15), ("LOCAL0", 16), ("LOCAL1", 17),
  ("LOCAL2", 18), ("LOCAL3", 19), ("LOCAL4", 20), ("LOCAL5", 21), ("LOCAL6", 22), ("LOCAL7", 23)]

/-- The facility of a name without regard to case, that of users if there is none. -/
def facilityOf (name : String) : Nat := (codes.lookup (raised name)).getD userFacility

/-- A byte of a numeral as a character; a byte outside ASCII belongs to no numeral. -/
def numeralCharacter (byte : UInt8) : Char :=
  if byte.toNat < 0x80 then Char.ofNat byte.toNat else 'x'

/-- The whole number of a value, the fraction of a floating-point number dropped. -/
def portOf : Value → Except SyslogError Int
  | .int value => .ok value
  | .bool value => .ok (if value then 1 else 0)
  | .float .nan => .error .notNumber
  | .float value =>
    match value.truncate? with
    | some whole => .ok whole
    | none => .error .infinite
  | .text text =>
    match Numeral.read text.toList with
    | .ok value => .ok value
    | .error .malformed => .error (.malformedPort text)
    | .error (.tooLong digits) => .error (.tooManyDigits digits)
  | .bytes bytes =>
    match Numeral.read (bytes.map numeralCharacter) with
    | .ok value => .ok value
    | .error .malformed => .error (.malformedBytes bytes)
    | .error (.tooLong digits) => .error (.tooManyDigits digits)
  | _ => .error .wrongKind

/-- The text of a value, which has to have one. -/
def textOf (value : Value) : Except SyslogError String :=
  (value.shown?.map .ok).getD (.error .unwritable)

/-- The address that a value gives: a host and a port as a list, anything else as it is. -/
def addressOf : Value → Except SyslogError SyslogAddress
  | .list [] => .error .missingPart
  | .list (host :: rest) => do
    let host ← textOf host
    match rest with
    | [] => throw .missingPart
    | port :: _ => return .network host (← portOf port)
  | value => .ok (.direct value)

/-- The target that a setting asks for. -/
def ofValue : Value → Except SyslogError SyslogTarget
  | .mapping entries => do
    let address ← addressOf ((Entries.get? entries "address").getD localSocket)
    let facility ← textOf ((Entries.get? entries "facility").getD (.text "USER"))
    return ⟨address, facilityOf facility⟩
  | _ => .ok ⟨.direct localSocket, userFacility⟩

end SyslogTarget

end HostResolver.Logging
