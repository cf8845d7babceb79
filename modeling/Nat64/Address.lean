import Nat64.Address.IPv6

/-!
# Addresses of both families

`Family` names the two versions of the Internet protocol, `Address` joins their addresses.
-/

namespace Nat64

/-- The two families of Internet protocol addresses. -/
inductive Family where
  | ipv4
  | ipv6
deriving DecidableEq, Repr

namespace Family

/-- The name of the protocol. -/
def name : Family → String
  | ipv4 => "IPv4"
  | ipv6 => "IPv6"

/-- The name of the family's control message protocol. -/
def icmpName : Family → String
  | ipv4 => "ICMP"
  | ipv6 => "ICMPv6"

/-- The version nibble that opens a packet. -/
def version : Family → UInt8
  | ipv4 => 4
  | ipv6 => 6

end Family

/-- An address of either family. -/
inductive Address where
  | ipv4 (a : IPv4)
  | ipv6 (a : IPv6)
deriving DecidableEq, Repr

instance : ToString Address where
  toString
    | .ipv4 a => toString a
    | .ipv6 a => toString a

/-- The family of an address. -/
def Address.family : Address → Family
  | .ipv4 _ => .ipv4
  | .ipv6 _ => .ipv6

end Nat64
