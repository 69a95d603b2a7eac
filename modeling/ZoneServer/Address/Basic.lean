import ZoneServer.Address.Ipv6

/-!
# Addresses of servers

A server has an IPv4 or an IPv6 address and a port. In the text of both together an IPv6 address stands
in brackets.
-/

namespace ZoneServer

/-- An address of either version. -/
inductive IpAddress where
  /-- An IPv4 address. -/
  | v4 (address : Ipv4)
  /-- An IPv6 address. -/
  | v6 (address : Ipv6)
  deriving DecidableEq, Repr

/-- The address that a text spells. -/
def IpAddress.ofString? (text : String) : Option IpAddress :=
  match Ipv4.ofCanonical? text.toList with
  | some address => some (.v4 address)
  | none => (Ipv6.ofText? text.toList).map .v6

/-- The text of an address, as it stands before a port. -/
def IpAddress.hostText : IpAddress → String
  | .v4 address => address.text
  | .v6 address => "[" ++ address.text ++ "]"

/-- An address and a port. -/
structure Endpoint where
  /-- The address. -/
  address : IpAddress
  /-- The port. -/
  port : UInt16
  deriving DecidableEq, Repr

/-- The text of an address and a port. -/
def Endpoint.text (e : Endpoint) : String := e.address.hostText ++ ":" ++ toString e.port.toNat

end ZoneServer
