import HostResolver.Address.Ipv6

/-!
Addresses of hosts, of either version.
-/

namespace HostResolver.Address

/-- The address of a host. -/
inductive IpAddress where
  | v4 (address : Ipv4)
  | v6 (address : Ipv6)
deriving DecidableEq, Repr

namespace IpAddress

/-- Reads an address. No text is an address of both versions. -/
def read? (text : List Char) : Option IpAddress :=
  match Ipv4.read? text with
  | some address => some (.v4 address)
  | none => (Ipv6.read? text).map .v6

def chars : IpAddress → List Char
  | .v4 address => address.chars
  | .v6 address => address.chars

def shown (address : IpAddress) : String := String.ofList address.chars

def version : IpAddress → Nat
  | .v4 _ => 4
  | .v6 _ => 6

end IpAddress

end HostResolver.Address
