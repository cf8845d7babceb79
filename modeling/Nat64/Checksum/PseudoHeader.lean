import Nat64.Checksum
import Nat64.Protocol

/-!
# Pseudo-headers

The checksums of TCP, UDP and ICMPv6 cover more than their message: both addresses, the protocol and the length. This
file sums these, and moves a TCP or UDP checksum from one family's pseudo-header to the other's.

In UDP a checksum of zero means that there is none. `toIPv4` keeps that, `toIPv6` has no answer for it, and neither
ever makes a checksum zero.
-/

namespace Nat64.Checksum

/-- The sum of the IPv4 pseudo-header of a message of `length` bytes. -/
def pseudoSum4 (src dst : IPv4) (protocol : UInt8) (length : Nat) : Nat :=
  wordSum src.octets + wordSum dst.octets + protocol.toNat + length

/-- The sum of the IPv6 pseudo-header of a message of `length` bytes; the length has 32 bits there. -/
def pseudoSum6 (src dst : IPv6) (protocol : UInt8) (length : Nat) : Nat :=
  wordSum src.octets + wordSum dst.octets + (length / 0x10000 + length % 0x10000) + protocol.toNat

/-- A checksum to be sent: in UDP a zero goes out as its other form, `0xffff`. -/
def sendable (protocol : UInt8) (checksum : UInt16) : UInt16 :=
  if protocol = Transport.udp.number ∧ checksum = 0 then 0xffff else checksum

/-- The pseudo-headers of a TCP or UDP message in both families. -/
structure PseudoHeaders where
  src6 : IPv6
  dst6 : IPv6
  src4 : IPv4
  dst4 : IPv4
  /-- The protocol number, the same in both. -/
  protocol : UInt8
  /-- The length of the message, the same in both. -/
  length : UInt16
deriving DecidableEq, Repr

namespace PseudoHeaders

/-- The sum of the IPv4 pseudo-header. -/
def sum4 (p : PseudoHeaders) : Nat := pseudoSum4 p.src4 p.dst4 p.protocol p.length.toNat

/-- The sum of the IPv6 pseudo-header. -/
def sum6 (p : PseudoHeaders) : Nat := pseudoSum6 p.src6 p.dst6 p.protocol p.length.toNat

/-- The checksum under IPv4 of a message whose checksum under IPv6 is given. -/
def toIPv4 (p : PseudoHeaders) (checksum : UInt16) : UInt16 :=
  if p.protocol = Transport.udp.number ∧ checksum = 0 then 0
  else sendable p.protocol (replace checksum (fold p.sum6) (fold p.sum4))

/-- The checksum under IPv6 of a message whose checksum under IPv4 is given; nothing for a UDP message without one,
which would need its whole data. -/
def toIPv6? (p : PseudoHeaders) (checksum : UInt16) : Option UInt16 :=
  if p.protocol = Transport.udp.number ∧ checksum = 0 then none
  else some (sendable p.protocol (replace checksum (fold p.sum4) (fold p.sum6)))

end PseudoHeaders

end Nat64.Checksum
