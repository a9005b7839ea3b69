import HostResolver.Address.Basic
import HostResolver.Document.Value

/-!
Endpoints: the address of a server and its port.

This module owns the value, its text, and the checks on a host and a port that a caller hands over
as document values. A host is checked before its port.
-/

namespace HostResolver.Address

open HostResolver.Document HostResolver.Number HostResolver.Text

abbrev Port := Fin 65536

/-- The port on which name servers listen. -/
def dnsPort : Port := 53

/-- The address of a server and its port. -/
structure Endpoint where
  host : IpAddress
  port : Port
deriving DecidableEq, Repr

/-- Why a host and a port make no endpoint. -/
inductive EndpointError where
  | notAnAddress (host : String)
  /-- The port is not a whole number. -/
  | portNotWhole (port : Value)
  /-- The port is a whole number that no port has. -/
  | portOutOfRange (port : Int)

namespace EndpointError

def message : EndpointError → String
  | .notAnAddress host => s!"{quoted host} does not appear to be an IPv4 or IPv6 address"
  | .portNotWhole port => s!"port must be an int, got {port.quoted}"
  | .portOutOfRange port => s!"port out of range: {shownInt port}"

end EndpointError

namespace Endpoint

/-- Checks a port that a caller hands over. -/
def checkPort : Value → Except EndpointError Port
  | .int value =>
    if inRange : 0 ≤ value ∧ value < 65536 then .ok ⟨value.toNat, by omega⟩
    else .error (.portOutOfRange value)
  | other => .error (.portNotWhole other)

/-- The endpoint at an address with a port that a caller hands over. -/
def withPort (host : IpAddress) (port : Value) : Except EndpointError Endpoint :=
  (checkPort port).map fun port => ⟨host, port⟩

/-- The endpoint for a host and a port that a caller hands over. -/
def ofValues (host port : Value) : Except EndpointError Endpoint :=
  match IpAddress.read? host.shown.toList with
  | none => .error (.notAnAddress host.shown)
  | some address => withPort address port

/-- The text of an endpoint: an IPv6 address stands in brackets. -/
def chars (endpoint : Endpoint) : List Char :=
  match endpoint.host with
  | .v4 address => address.chars ++ ':' :: Number.digitChars endpoint.port.val
  | .v6 address => '[' :: address.chars ++ ']' :: ':' :: Number.digitChars endpoint.port.val

def shown (endpoint : Endpoint) : String := String.ofList endpoint.chars

/-- The text of the host and the number of the port. -/
def pair (endpoint : Endpoint) : String × Nat := (endpoint.host.shown, endpoint.port.val)

def described (endpoint : Endpoint) : String :=
  s!"ServerAddress(host=IPv{endpoint.host.version}Address({quoted endpoint.host.shown}), " ++
    s!"port={endpoint.port.val})"

def shownList (endpoints : List Endpoint) : String :=
  "[" ++ ", ".intercalate (endpoints.map shown) ++ "]"

end Endpoint

end HostResolver.Address
