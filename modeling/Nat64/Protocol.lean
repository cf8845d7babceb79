import Nat64.Address

/-!
# Protocols above the Internet protocol

The translator carries TCP, UDP and the control messages of either family; all other protocols are turned away.
-/

namespace Nat64

/-- The protocols whose messages pass unchanged but for their checksum. -/
inductive Transport where
  | tcp
  | udp
deriving DecidableEq, Repr

/-- The protocols that are understood. -/
inductive Protocol where
  /-- A protocol of the layer above. -/
  | transport (t : Transport)
  /-- The control messages of a family. -/
  | icmp (family : Family)
deriving DecidableEq, Repr

/-- The number of a protocol in the IP header, the same in both families. -/
def Transport.number : Transport → UInt8
  | tcp => 6
  | udp => 17

/-- The offset of the checksum in a message. -/
def Transport.checksumOffset : Transport → Nat
  | tcp => 16
  | udp => 6

namespace Protocol

/-- The number of a protocol in the IP header. -/
def number : Protocol → UInt8
  | transport t => t.number
  | icmp .ipv4 => 1
  | icmp .ipv6 => 58

/-- The protocol with the given number. -/
def ofNumber? (number : UInt8) : Option Protocol :=
  if number = 6 then some (transport .tcp)
  else if number = 17 then some (transport .udp)
  else if number = 1 then some (icmp .ipv4)
  else if number = 58 then some (icmp .ipv6)
  else none

/-- The offset of the checksum in a message. -/
def checksumOffset : Protocol → Nat
  | transport t => t.checksumOffset
  | icmp _ => 2

theorem ofNumber?_number (p : Protocol) : ofNumber? p.number = some p := by
  rcases p with (_ | _) | (_ | _) <;> rfl

theorem number_of_ofNumber? {n : UInt8} {p : Protocol} (h : ofNumber? n = some p) : p.number = n := by
  unfold ofNumber? at h
  split at h <;> rename_i h6
  · cases h; exact h6.symm
  split at h <;> rename_i h17
  · cases h; exact h17.symm
  split at h <;> rename_i h1
  · cases h; exact h1.symm
  split at h <;> rename_i h58
  · cases h; exact h58.symm
  · cases h

end Protocol

end Nat64
