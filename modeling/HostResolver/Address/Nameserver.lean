import HostResolver.Address.Endpoint
import HostResolver.Text.Numeral

/-!
Name servers as configuration files write them.

This module owns the grammar of a port and of the argument of a `nameserver` line. The argument is
an address alone; an IPv6 address in brackets, with or without a port behind a colon; an IPv4
address with a port behind a colon; or an address with a port behind a last point. An address alone
is tried first, so a zone takes in whatever follows it.
-/

namespace HostResolver.Address

open HostResolver.Text HostResolver.Document

/-- Why a text is no port. -/
inductive PortError where
  /-- It is not written in digits alone. -/
  | malformed (text : String)
  /-- It has too many digits to be converted. -/
  | tooLong (digits : Nat)
  /-- It is a number that no port has. -/
  | outOfRange (value : Nat)
deriving DecidableEq, Repr

def PortError.message : PortError → String
  | .malformed text => s!"invalid port value: {quoted text}"
  | .tooLong digits => tooManyDigits digits
  | .outOfRange value => s!"port out of range: {value}"

/-- Reads a port: digits of ASCII, with blanks around them. -/
def Port.read (text : List Char) : Except PortError Port :=
  let digits := trim text
  if digits.isEmpty || !digits.all isDigit then .error (.malformed (String.ofList digits))
  else if maxDigits < digits.length then .error (.tooLong digits.length)
  else if inRange : decimalValue digits < 65536 then .ok ⟨decimalValue digits, inRange⟩
  else .error (.outOfRange (decimalValue digits))

/-- Why a text names no server. -/
inductive NameserverError where
  /-- No address is found in it. -/
  | notAnAddress (text : String)
  /-- What stands in the place of the port is none. -/
  | port (error : PortError)
  /-- It names no port, and the port given for that case cannot be used. -/
  | endpoint (error : EndpointError)

def NameserverError.message : NameserverError → String
  | .notAnAddress text => s!"invalid IP value: {quoted text}"
  | .port error => error.message
  | .endpoint error => error.message

namespace Nameserver

/-- A server as it is written: an address, and a port if one is named. -/
structure Written where
  host : IpAddress
  port : Option Port
deriving DecidableEq, Repr

/-- An address with a port that is written behind it. -/
def withPort (host : IpAddress) (port : List Char) : Except NameserverError Written :=
  match Port.read port with
  | .ok port => .ok ⟨host, some port⟩
  | .error error => .error (.port error)

def readBracketed (refusal : NameserverError) (text : List Char) :
    Except NameserverError Written :=
  match cutAtFirst? ']' text with
  | none => .error refusal
  | some (inner, rest) =>
    match Ipv6.read? inner with
    | none => .error refusal
    | some address =>
      match rest with
      | [] => .ok ⟨.v6 address, none⟩
      | ':' :: port => withPort (.v6 address) port
      | _ => .error refusal

/-- Reads an address and a port on either side of the only colon. -/
def readWithColon (refusal : NameserverError) (host port : List Char) :
    Except NameserverError Written :=
  match IpAddress.read? host with
  | none => .error refusal
  | some address => withPort address port

/-- Reads an address and a port on either side of the last point. The port is looked at first. -/
def readWithPoint (refusal : NameserverError) (text : List Char) :
    Except NameserverError Written :=
  match cutAtLast? '.' text with
  | none => .error refusal
  | some (host, port) =>
    if port.isEmpty then .error refusal
    else
      match Port.read port with
      | .error error => .error (.port error)
      | .ok port =>
        match IpAddress.read? host with
        | none => .error refusal
        | some address => .ok ⟨address, some port⟩

/-- Reads what is no address by itself. -/
def readWithPort (refusal : NameserverError) (text : List Char) :
    Except NameserverError Written :=
  match text with
  | '[' :: rest => readBracketed refusal rest
  | _ =>
    match cutAtFirst? ':' text with
    | some (host, port) =>
      if port.contains ':' then readWithPoint refusal text else readWithColon refusal host port
    | none => readWithPoint refusal text

/-- Reads a server. A refusal names the text with its blanks. -/
def read (value : List Char) : Except NameserverError Written :=
  let text := trim value
  match IpAddress.read? text with
  | some address => .ok ⟨address, none⟩
  | none => readWithPort (.notAnAddress (String.ofList value)) text

/-- The endpoint of a server as it is written, given the port for one that names none. -/
def Written.endpoint (written : Written) (default : Value) : Except NameserverError Endpoint :=
  match written.port with
  | some port => .ok ⟨written.host, port⟩
  | none => (Endpoint.withPort written.host default).mapError .endpoint

/-- Reads the endpoint of a server, given the port for one that names none. -/
def readEndpoint (value : List Char) (default : Value) : Except NameserverError Endpoint :=
  (read value).bind (·.endpoint default)

end Nameserver

end HostResolver.Address
