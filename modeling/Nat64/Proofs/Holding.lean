import Nat64.Proofs.LeaseTable

/-!
# Leases in use

A lease that was looked up within its expiry is safe: whatever other hosts ask for, and however short of addresses the
table is, it is neither ended nor given away.

* `HeldSince t host a since`: the host holds the address, and this was last looked up no earlier than `since`.
* `InUse.leaseFor`, `InUse.findHolder`, `InUse.reclaim`, …: no operation ends it before the expiry has passed.
* `InUse.leaseFor_self`, `InUse.findHolder_self`: looking it up succeeds and starts the expiry anew.
-/

namespace Nat64.LeaseTable

variable {t t' : LeaseTable} {added : List Pool.Range} {kept : List IPv4} {now since expiry : Nat} {host : IPv6}
  {a : IPv4}

/-- The host holds the address, and this was last looked up no earlier than `since`. -/
def HeldSince (t : LeaseTable) (host : IPv6) (a : IPv4) (since : Nat) : Prop :=
  ∃ l ∈ t.leases, l.host = host ∧ l.address = a ∧ since ≤ l.lastUsed

/-! ## The expiry never changes -/

theorem expiry_foldl_endLease (ls : List Lease) (t : LeaseTable) : (ls.foldl endLease t).expiry = t.expiry := by
  induction ls generalizing t with
  | nil => rfl
  | cons l ls ih => exact ih (t.endLease l)

theorem expiry_reclaim (t : LeaseTable) (now : Nat) : (t.reclaim now).expiry = t.expiry := expiry_foldl_endLease _ t

theorem expiry_grant (t : LeaseTable) (now : Nat) (host : IPv6) : (t.grant now host).2.expiry = t.expiry := by
  unfold grant
  split <;> rfl

theorem expiry_leaseFor (t : LeaseTable) (now : Nat) (host : IPv6) : (t.leaseFor now host).2.expiry = t.expiry := by
  unfold leaseFor
  split
  · rfl
  · rw [expiry_grant, expiry_reclaim]

theorem expiry_findHolder (t : LeaseTable) (now : Nat) (a : IPv4) : (t.findHolder now a).2.expiry = t.expiry := by
  unfold findHolder
  split <;> rfl

/-! ## What holding an address means -/

/-- A table in balance in which a lease is in use. -/
structure InUse (t : LeaseTable) (added : List Pool.Range) (kept : List IPv4) (now expiry : Nat) (host : IPv6)
    (a : IPv4) (since : Nat) : Prop where
  books : t.Balanced added kept now
  expiry_eq : t.expiry = expiry
  held : t.HeldSince host a since

namespace InUse

theorem since_le (h : t.InUse added kept now expiry host a since) : since ≤ now := by
  obtain ⟨l, hl, -, -, hused⟩ := h.held
  exact Nat.le_trans hused (h.books.lastUsed_le l hl)

theorem addressOf?_eq (h : t.InUse added kept now expiry host a since) : t.addressOf? host = some a := by
  obtain ⟨l, hl, hh, ha, -⟩ := h.held
  exact h.books.addressOf?_eq_some.2 ⟨l, hl, ha, hh⟩

theorem holderOf?_eq (h : t.InUse added kept now expiry host a since) : t.holderOf? a = some host := by
  obtain ⟨l, hl, hh, ha, -⟩ := h.held
  exact h.books.holderOf?_eq_some.2 ⟨l, hl, ha, hh⟩

theorem eq_host (h : t.InUse added kept now expiry host a since) {other : IPv6} (ho : t.addressOf? other = some a) :
    other = host := by
  obtain ⟨l, hl, ha, rfl⟩ := h.books.addressOf?_eq_some.1 ho
  obtain ⟨m, hm, rfl, hma, -⟩ := h.held
  rw [h.books.eq_of_address hl hm (ha.trans hma.symm)]

/-! ## No operation ends a lease in use -/

theorem renew (h : t.InUse added kept now expiry host a since) (b : IPv4) :
    (t.renew now b).InUse added kept now expiry host a since := by
  obtain ⟨l, hl, hh, ha, hused⟩ := h.held
  refine ⟨h.books.renew, h.expiry_eq, _, List.mem_map_of_mem hl, ?_⟩
  split
  · exact ⟨hh, ha, h.since_le⟩
  · exact ⟨hh, ha, hused⟩

theorem renew_self (h : t.InUse added kept now expiry host a since) :
    (t.renew now a).InUse added kept now expiry host a now := by
  obtain ⟨l, hl, hh, ha, -⟩ := h.held
  refine ⟨h.books.renew, h.expiry_eq, _, List.mem_map_of_mem hl, ?_⟩
  rw [if_pos ha]
  exact ⟨hh, ha, Nat.le_refl now⟩

/-- The comparison with the expiry is strict: a lease is safe as long as the expiry has not passed. -/
theorem reclaim (h : t.InUse added kept now expiry host a since) (hle : now ≤ since + expiry) :
    (t.reclaim now).InUse added kept now expiry host a since := by
  obtain ⟨l, hl, hh, ha, hused⟩ := h.held
  refine ⟨h.books.reclaim, (expiry_reclaim t now).trans h.expiry_eq, l, ?_, hh, ha, hused⟩
  rw [h.books.leases_reclaim, List.mem_filter]
  refine ⟨hl, ?_⟩
  have hexpiry := h.expiry_eq
  simp only [isExpired, decide_eq_true_eq]
  omega

theorem grant (h : t.InUse added kept now expiry host a since) {other : IPv6} (hnone : t.addressOf? other = none) :
    (t.grant now other).2.InUse added kept now expiry host a since := by
  refine ⟨h.books.grant (h.books.addressOf?_eq_none.1 hnone), (expiry_grant t now other).trans h.expiry_eq, ?_⟩
  unfold LeaseTable.grant
  split
  · exact h.held
  · obtain ⟨l, hl, hl'⟩ := h.held
    exact ⟨l, List.mem_append_left _ hl, hl'⟩

theorem leaseFor (h : t.InUse added kept now expiry host a since) (hle : now ≤ since + expiry) (other : IPv6) :
    (t.leaseFor now other).2.InUse added kept now expiry host a since := by
  unfold LeaseTable.leaseFor
  split
  · exact h.renew _
  · rename_i hnone
    refine (h.reclaim hle).grant (h.books.reclaim.addressOf?_eq_none.2 fun l hl => ?_)
    rw [h.books.leases_reclaim] at hl
    exact h.books.addressOf?_eq_none.1 hnone l (List.mem_of_mem_filter hl)

theorem findHolder (h : t.InUse added kept now expiry host a since) (b : IPv4) :
    (t.findHolder now b).2.InUse added kept now expiry host a since := by
  unfold LeaseTable.findHolder
  split
  · exact h.renew b
  · exact h

theorem addRange (h : t.InUse added kept now expiry host a since) {first last : IPv4}
    (ht : t.addRange first last = .ok t') : t'.InUse (⟨first, last⟩ :: added) kept now expiry host a since := by
  have hbooks := h.books.addRange ht
  unfold LeaseTable.addRange at ht
  split at ht
  · cases ht
  split at ht
  · cases ht
  cases ht
  exact ⟨hbooks, h.expiry_eq, h.held⟩

theorem mono (h : t.InUse added kept now expiry host a since) {later : Nat} (hle : now ≤ later) :
    t.InUse added kept later expiry host a since := ⟨h.books.mono hle, h.expiry_eq, h.held⟩

/-! ## Looking a lease up -/

theorem leaseFor_self (h : t.InUse added kept now expiry host a since) :
    t.leaseFor now host = (.ok a, t.renew now a) := by
  rw [LeaseTable.leaseFor, h.addressOf?_eq]

theorem findHolder_self (h : t.InUse added kept now expiry host a since) :
    t.findHolder now a = (.ok host, t.renew now a) := by
  rw [LeaseTable.findHolder, h.holderOf?_eq]

end InUse

/-- Whoever is told its address has just looked it up. -/
theorem Balanced.inUse_leaseFor (h : t.Balanced added kept now) (ht : t.leaseFor now host = (.ok a, t')) :
    t'.InUse added kept now t.expiry host a now := by
  have hbooks : t'.Balanced added kept now := by
    have hafter : (t.leaseFor now host).2.Balanced added kept now := h.leaseFor
    rwa [ht] at hafter
  have hexpiry : t'.expiry = t.expiry := by
    have hafter := expiry_leaseFor t now host
    rwa [ht] at hafter
  unfold LeaseTable.leaseFor at ht
  split at ht
  · rename_i hsome
    cases ht
    obtain ⟨l, hl, ha, hh⟩ := h.addressOf?_eq_some.1 hsome
    have hin : t.InUse added kept now t.expiry host a 0 := ⟨h, rfl, l, hl, hh, ha, Nat.zero_le _⟩
    exact hin.renew_self
  · refine ⟨hbooks, hexpiry, ?_⟩
    unfold LeaseTable.grant at ht
    split at ht <;> cases ht
    exact ⟨_, List.mem_append_right _ (List.mem_singleton_self _), rfl, rfl, Nat.le_refl now⟩

end Nat64.LeaseTable
