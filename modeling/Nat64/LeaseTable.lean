import Nat64.Address.Network
import Nat64.Fault
import Nat64.Pool

/-!
# Leases of IPv4 addresses

Each IPv6 host that sends through the translator leases one IPv4 address. A lease lasts as long as it is looked up,
in either direction, at least once within the expiry; an expired lease stays until an address is needed.

The table is kept twice, by host and by address, so that either is found without a search through the other; only the
lease on the address knows when it was last looked up.

Time is counted in nanoseconds and never read here: every operation that looks at it is told what it is. Operations
that may fail keep what they changed before they failed.

* `LeaseTable.addressOf?`, `LeaseTable.holderOf?`: the leases as a relation between hosts and addresses.
* `LeaseTable.leaseFor`, `LeaseTable.findHolder`: looking a lease up, which renews it.
-/

namespace Nat64

/-- A lease of an address to a host. -/
structure Lease where
  address : IPv4
  host : IPv6
  lastUsed : Nat
deriving DecidableEq, Repr

/-- The leases in force and the addresses that are left. -/
structure LeaseTable where
  expiry : Nat := 1800 * 1000000000
  /-- The addresses that may be leased. -/
  free : Pool := ∅
  /-- All addresses ever added. -/
  configured : Pool := ∅
  /-- The address of each host that holds one, oldest first. -/
  addresses : List (IPv6 × IPv4) := []
  /-- The lease on each address that is held, oldest first. -/
  leases : List Lease := []
deriving DecidableEq, Repr

namespace LeaseTable

/-! ## Looking -/

/-- The lease on an address. -/
def leaseOn? (t : LeaseTable) (address : IPv4) : Option Lease := t.leases.find? (·.address = address)

/-- The address that a host holds. -/
def addressOf? (t : LeaseTable) (host : IPv6) : Option IPv4 := (t.addresses.find? (·.1 = host)).map (·.2)

/-- The host that holds an address. -/
def holderOf? (t : LeaseTable) (address : IPv4) : Option IPv6 := (t.leaseOn? address).map (·.host)

/-- All leases in the order of their addresses. -/
def snapshot (t : LeaseTable) : List Lease := t.leases.mergeSort fun a b => a.address ≤ b.address

/-! ## Addresses -/

/-- Adds the addresses from `first` to `last`, none of which may have been added before. -/
def addRange (t : LeaseTable) (first last : IPv4) : Except Fault LeaseTable :=
  if last < first then .error (.config (.emptyRange first last) none)
  else if t.configured.meetsRange first last then .error (.rangeCollision first last)
  else .ok { t with
    configured := t.configured.insertRange first last
    free := t.free.insertRange first last }

/-- Adds the addresses that hosts of a network may have. -/
def addNetwork (t : LeaseTable) (net : IPv4.Network) : Except Fault LeaseTable :=
  t.addRange net.hosts.1 net.hosts.2

/-- Keeps an address back; nothing happens to one that is not free. -/
def reserve (t : LeaseTable) (address : IPv4) : LeaseTable := { t with free := t.free.erase address }

/-- Whether `reserve` would take an address: the number of addresses that it takes is one. -/
def canReserve (t : LeaseTable) (address : IPv4) : Bool := t.free.countRange address address == 1

/-! ## Leases -/

/-- Whether a lease has outlived its expiry. -/
def isExpired (t : LeaseTable) (now : Nat) (l : Lease) : Bool := t.expiry < now - l.lastUsed

/-- Ends a lease and gives its address back. -/
def endLease (t : LeaseTable) (l : Lease) : LeaseTable :=
  { t with
    leases := t.leases.filter (·.address ≠ l.address)
    addresses := t.addresses.filter (·.1 ≠ l.host)
    free := t.free.insert l.address }

/-- Ends all expired leases, one after the other. -/
def reclaim (t : LeaseTable) (now : Nat) : LeaseTable := (t.leases.filter (t.isExpired now)).foldl endLease t

/-- The number of leases that `reclaim` would end. -/
def expiredCount (t : LeaseTable) (now : Nat) : Nat := t.leases.countP (t.isExpired now)

/-- Renews the lease on an address. -/
def renew (t : LeaseTable) (now : Nat) (address : IPv4) : LeaseTable :=
  { t with leases := t.leases.map fun l => if l.address = address then { l with lastUsed := now } else l }

/-- Leases the lowest free address to a host that holds none. -/
def grant (t : LeaseTable) (now : Nat) (host : IPv6) : Except Fault IPv4 × LeaseTable :=
  match t.free.popLowest? with
  | none => (.error (.poolExhausted host), t)
  | some (address, free) =>
    (.ok address,
      { t with
        free
        addresses := t.addresses ++ [(host, address)]
        leases := t.leases ++ [{ address, host, lastUsed := now }] })

/-- The address that a host holds, leased to it now if it holds none; expired leases end only in that case. -/
def leaseFor (t : LeaseTable) (now : Nat) (host : IPv6) : Except Fault IPv4 × LeaseTable :=
  match t.addressOf? host with
  | some address => (.ok address, t.renew now address)
  | none => (t.reclaim now).grant now host

/-- The host that holds an address. -/
def findHolder (t : LeaseTable) (now : Nat) (address : IPv4) : Except Fault IPv6 × LeaseTable :=
  match t.holderOf? address with
  | some host => (.ok host, t.renew now address)
  | none => (.error (.noLease address), t)

end LeaseTable

end Nat64
