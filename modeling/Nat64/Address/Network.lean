import Nat64.Address.Text

/-!
# Networks

A network is an address with a length; its members share that many leading bits with the address. The address keeps
its own low bits in the text.

* `IPv4.Network.first`, `IPv4.Network.last`: the ends of the block of members.
* `IPv4.Network.hosts`: the addresses that hosts may have, without the two ends of a block of more than two.
-/

namespace Nat64

-- Powers of natural numbers mean the same here whatever else is in scope.
attribute [local instance (2000)] instPowNat

/-! ## IPv4 -/

/-- A block of IPv4 addresses, given by one of them and the number of bits they share. -/
structure IPv4.Network where
  /-- An address of the block. -/
  address : IPv4
  /-- The number of leading bits that all members share. -/
  length : Nat
  /-- No more bits are shared than there are. -/
  length_le : length ≤ 32 := by omega
deriving DecidableEq, Repr

namespace IPv4.Network

/-- The number of members. -/
def size (net : Network) : Nat := 2 ^ (32 - net.length)

/-- The lowest member, which is the address of the network itself. -/
def first (net : Network) : IPv4 := IPv4.ofNat (net.address.toNat / net.size * net.size)

/-- The highest member, which is the broadcast address. -/
def last (net : Network) : IPv4 := IPv4.ofNat (net.address.toNat / net.size * net.size + (net.size - 1))

/-- The mask that selects the shared bits. -/
def mask (net : Network) : IPv4 := IPv4.ofNat (0x100000000 - net.size)

instance : Membership IPv4 Network := ⟨fun net a => net.first ≤ a ∧ a ≤ net.last⟩

instance (a : IPv4) (net : Network) : Decidable (a ∈ net) :=
  inferInstanceAs (Decidable (net.first ≤ a ∧ a ≤ net.last))

/-- The first and the last address for hosts: all members of a block of one or two, else all but the two ends. -/
def hosts (net : Network) : IPv4 × IPv4 :=
  if net.length < 31 then (IPv4.ofNat (net.first.toNat + 1), IPv4.ofNat (net.last.toNat - 1))
  else (net.first, net.last)

/-- The network with the given text: an address, a slash and a length of at most two digits. -/
def ofString? (s : String) : Option Network := do
  let (address, cs) ← IPv4.read? .lenient s.toList
  let length ← Text.atEnd? (Text.number? 10 2 33 (← Text.drop? '/' cs))
  if h : length ≤ 32 then some { address, length } else none

instance : ToString Network where
  toString net := toString net.address ++ "/" ++ toString net.length

end IPv4.Network

/-! ## IPv6 -/

/-- A block of IPv6 addresses, given by one of them and the number of bits they share. -/
structure IPv6.Network where
  /-- An address of the block. -/
  address : IPv6
  /-- The number of leading bits that all members share. -/
  length : Nat
  /-- No more bits are shared than there are. -/
  length_le : length ≤ 128 := by omega
deriving DecidableEq, Repr

namespace IPv6.Network

/-- The lowest member, which is the address of the network itself. -/
def first (net : Network) : IPv6 :=
  let size := 2 ^ (128 - net.length)
  IPv6.ofNat (net.address.toNat / size * size)

/-- The network with the given text: an address, a slash and a length of at most three digits. -/
def ofString? (s : String) : Option Network := do
  let (address, cs) ← IPv6.read? .lenient s.toList
  let length ← Text.atEnd? (Text.number? 10 3 129 (← Text.drop? '/' cs))
  if h : length ≤ 128 then some { address, length } else none

instance : ToString Network where
  toString net := toString net.address ++ "/" ++ toString net.length

end IPv6.Network

end Nat64
