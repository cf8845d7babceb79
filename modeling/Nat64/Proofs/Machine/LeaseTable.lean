import Nat64.Proofs.Machine.Basic

/-!
# Leases on the machine

Addresses are numbers of 32 bits, so that the address after one, as a number of 64 bits, always exists; in 32 bits it
exists if another one follows in the range. Nothing is asked of the table.

* `Machine.join_eq`, `Machine.popLowest?_eq`: ranges of addresses.
* `Machine.leaseFor_follows`, `Machine.findHolder_follows`: the two lookups, on every table.
-/

namespace Nat64.Machine

/-! ## Ranges -/

/-- Adds a range to ranges in ascending order and joins what meets or touches it. -/
def join (r : Pool.Range) : List Pool.Range → Run (List Pool.Range)
  | [] => return [r]
  | s :: rest => do
    let next ← add .w64 s.last.toNat 1
    if next < r.first.toNat then return s :: (← join r rest)
    let next ← add .w64 r.last.toNat 1
    if next < s.first.toNat then return r :: s :: rest
    join (r.hull s) rest

/-- Adds one address. -/
def insert (p : Pool) (a : IPv4) : Run Pool :=
  if a ≤ a then do return ⟨← join ⟨a, a⟩ p.ranges⟩ else return p

/-- The lowest address, and the pool without it. -/
def popLowest? (p : Pool) : Run (Option (IPv4 × Pool)) :=
  match p.ranges with
  | [] => return none
  | r :: rest =>
    if r.first < r.last then do
      let next ← add .w32 r.first.toNat 1
      return some (r.first, ⟨⟨IPv4.ofNat next, r.last⟩ :: rest⟩)
    else return some (r.first, ⟨rest⟩)

theorem join_eq (r : Pool.Range) (ranges : List Pool.Range) : join r ranges = .ok (Pool.join r ranges) := by
  fun_induction Pool.join r ranges with
  | case1 r => rfl
  | case2 r s rest hbefore ih =>
    have hs := s.last.toNat_lt
    have hbefore : s.last.toNat + 1 < r.first.toNat := hbefore
    rw [join, add_w64 (by omega), ok_bind, if_pos hbefore, ih]
    rfl
  | case3 r s rest hsr hrs =>
    have hs := s.last.toNat_lt
    have hr := r.last.toNat_lt
    have hsr : ¬ s.last.toNat + 1 < r.first.toNat := hsr
    have hrs : r.last.toNat + 1 < s.first.toNat := hrs
    rw [join, add_w64 (by omega), ok_bind, if_neg hsr, add_w64 (by omega), ok_bind, if_pos hrs]
    rfl
  | case4 r s rest hsr hrs ih =>
    have hs := s.last.toNat_lt
    have hr := r.last.toNat_lt
    have hsr : ¬ s.last.toNat + 1 < r.first.toNat := hsr
    have hrs : ¬ r.last.toNat + 1 < s.first.toNat := hrs
    rw [join, add_w64 (by omega), ok_bind, if_neg hsr, add_w64 (by omega), ok_bind, if_neg hrs, ih]

theorem insert_eq (p : Pool) (a : IPv4) : insert p a = .ok (p.insert a) := by
  unfold insert Pool.insert Pool.insertRange
  split
  · rw [join_eq]
    rfl
  · rfl

/-- The lowest address of a range has a next one if it is not the last. -/
theorem popLowest?_eq (p : Pool) : popLowest? p = .ok p.popLowest? := by
  obtain ⟨_ | ⟨r, rest⟩⟩ := p
  · rfl
  · by_cases hlt : r.first < r.last
    · have hless : r.first.toNat < r.last.toNat := hlt
      have hlast := r.last.toNat_lt
      simp only [popLowest?, Pool.popLowest?, if_pos hlt, add_w32 (by omega : r.first.toNat + 1 < 0x100000000), ok_bind]
      rfl
    · simp only [popLowest?, Pool.popLowest?, if_neg hlt]
      rfl

/-! ## Leases -/

/-- Ends a lease and gives its address back. -/
def endLease (t : LeaseTable) (l : Lease) : Run LeaseTable := do
  return { t with
    leases := t.leases.filter (·.address ≠ l.address)
    addresses := t.addresses.filter (·.1 ≠ l.host)
    free := ← insert t.free l.address }

/-- Ends all expired leases, one after the other. -/
def reclaim (t : LeaseTable) (now : Nat) : Run LeaseTable := (t.leases.filter (t.isExpired now)).foldlM endLease t

/-- Leases the lowest free address to a host that holds none. -/
def grant (t : LeaseTable) (now : Nat) (host : IPv6) : Run (Except Fault IPv4 × LeaseTable) := do
  match ← popLowest? t.free with
  | none => return (.error (.poolExhausted host), t)
  | some (address, free) =>
    return (.ok address,
      { t with
        free
        addresses := t.addresses ++ [(host, address)]
        leases := t.leases ++ [{ address, host, lastUsed := now }] })

/-- The address that a host holds, leased to it now if it holds none. -/
def addressFor (t : LeaseTable) (now : Nat) (host : IPv6) : Run (Except Fault IPv4 × LeaseTable) :=
  match t.addressOf? host with
  | some address => return (.ok address, t.renew now address)
  | none => do grant (← reclaim t now) now host

/-- The address leased to a host, as a step. -/
def leaseFor (now : Nat) (host : IPv6) : StepM IPv4 := fun t => do
  let (r, t) ← addressFor t now host
  return (r.mapError .fault, t)

/-- The host that holds an address, as a step; nothing is computed for it. -/
def findHolder (now : Nat) (address : IPv4) : StepM IPv6 := fun t => return Forwarding.findHolder now address t

theorem endLease_eq (t : LeaseTable) (l : Lease) : endLease t l = .ok (t.endLease l) := by
  rw [endLease, insert_eq]
  rfl

theorem foldlM_endLease (t : LeaseTable) (leases : List Lease) :
    leases.foldlM endLease t = .ok (leases.foldl LeaseTable.endLease t) := by
  induction leases generalizing t with
  | nil => rfl
  | cons l rest ih => rw [List.foldlM_cons, endLease_eq, ok_bind, ih, List.foldl_cons]

theorem grant_eq (t : LeaseTable) (now : Nat) (host : IPv6) : grant t now host = .ok (t.grant now host) := by
  unfold grant LeaseTable.grant
  rw [popLowest?_eq, ok_bind]
  rcases t.free.popLowest? with _ | _
  · rfl
  · rfl

theorem addressFor_eq (t : LeaseTable) (now : Nat) (host : IPv6) :
    addressFor t now host = .ok (t.leaseFor now host) := by
  unfold addressFor LeaseTable.leaseFor
  rcases t.addressOf? host with _ | address
  · simp only [reclaim, foldlM_endLease, ok_bind, grant_eq]
    rfl
  · rfl

theorem leaseFor_follows (now : Nat) (host : IPv6) (t : LeaseTable) :
    Follows (leaseFor now host) (Forwarding.leaseFor now host) t := by
  rw [Follows, leaseFor, addressFor_eq]
  rfl

theorem findHolder_follows (now : Nat) (address : IPv4) (t : LeaseTable) :
    Follows (findHolder now address) (Forwarding.findHolder now address) t := rfl

end Nat64.Machine
