import Nat64.Proofs.Holding
import Nat64.Proofs.Session

/-!
# Reclaiming in any order

A lease that ends gives up its own entries and gives its own address back, so leases may end in any order: what is left
of the indices is what belongs to the other leases, and the free addresses are the same set, which has only one form.

* `Pool.insert_comm`: addresses may be added in any order.
* `endLease_comm`, `foldl_endLease_perm`: so may leases be ended.
* `Balanced.reclaim_reclaim`: what has been reclaimed stays reclaimed.
* `Session.reclaim_order`: the same in every state of every session, with what it means for the host that comes next.
-/

namespace Nat64

/-- The order in which addresses are added does not show. -/
theorem Pool.insert_comm {p : Pool} (hp : p.Canonical) (a b : IPv4) :
    (p.insert a).insert b = (p.insert b).insert a := by
  have ha : (p.insert a).Canonical := canonical_insert hp
  have hb : (p.insert b).Canonical := canonical_insert hp
  refine eq_of_mem_iff (canonical_insert ha) (canonical_insert hb) fun c => ?_
  rw [mem_insert ha, mem_insert hp, mem_insert hb, mem_insert hp, or_right_comm]

namespace LeaseTable

variable {t : LeaseTable} {added : List Pool.Range} {kept : List IPv4} {now later : Nat}

/-! ## One lease after another -/

/-- Two leases may be ended in either order. -/
theorem endLease_comm (h : t.free.Canonical) (l m : Lease) : (t.endLease l).endLease m = (t.endLease m).endLease l := by
  have hleases : (t.leases.filter (·.address ≠ l.address)).filter (·.address ≠ m.address)
      = (t.leases.filter (·.address ≠ m.address)).filter (·.address ≠ l.address) := List.filter_comm ..
  have haddresses : (t.addresses.filter (·.1 ≠ l.host)).filter (·.1 ≠ m.host)
      = (t.addresses.filter (·.1 ≠ m.host)).filter (·.1 ≠ l.host) := List.filter_comm ..
  simp only [endLease, hleases, haddresses, Pool.insert_comm h l.address m.address]

/-- Leases may be ended in any order. -/
theorem foldl_endLease_perm {ls ms : List Lease} (h : t.free.Canonical) (hperm : ls.Perm ms) :
    ls.foldl endLease t = ms.foldl endLease t := by
  induction hperm generalizing t with
  | nil => rfl
  | cons l _ ih => exact ih (Pool.canonical_insert h)
  | swap l m ls => rw [List.foldl_cons, List.foldl_cons, List.foldl_cons, List.foldl_cons, endLease_comm h]
  | trans _ _ ih₁ ih₂ => exact (ih₁ h).trans (ih₂ h)

/-! ## Once is enough -/

/-- A table without expired leases stays as it is. -/
theorem reclaim_of_unexpired (h : ∀ l ∈ t.leases, ¬ t.isExpired now l = true) : t.reclaim now = t := by
  rw [reclaim, List.filter_eq_nil_iff.2 h]
  rfl

theorem expiredCount_eq_zero : t.expiredCount now = 0 ↔ ∀ l ∈ t.leases, ¬ t.isExpired now l = true :=
  List.countP_eq_zero

/-- Whether a lease has expired does not depend on which leases there are. -/
theorem isExpired_reclaim (t : LeaseTable) (now later : Nat) (l : Lease) :
    (t.reclaim now).isExpired later l = t.isExpired later l := by
  rw [isExpired, expiry_reclaim, isExpired]

namespace Balanced

/-- What is left has not expired. -/
theorem unexpired_of_reclaim (h : t.Balanced added kept now) {l : Lease} (hl : l ∈ (t.reclaim later).leases) :
    l ∈ t.leases ∧ ¬ t.isExpired later l = true := by
  rw [LeaseTable.reclaim, (h.foldl_endLease (List.filter_subset_self _) (h.leases_nodup.filter _)).2, List.mem_filter,
    decide_eq_true_eq] at hl
  refine ⟨hl.1, fun hexpired => hl.2 (List.mem_filter.2 ⟨hl.1, hexpired⟩)⟩

theorem expiredCount_reclaim (h : t.Balanced added kept now) : (t.reclaim later).expiredCount later = 0 := by
  refine expiredCount_eq_zero.2 fun l hl => ?_
  rw [isExpired_reclaim]
  exact (h.unexpired_of_reclaim hl).2

/-- Reclaiming again at the same time changes nothing. -/
theorem reclaim_reclaim (h : t.Balanced added kept now) : (t.reclaim later).reclaim later = t.reclaim later :=
  reclaim_of_unexpired (expiredCount_eq_zero.1 h.expiredCount_reclaim)

end Balanced

end LeaseTable

namespace Session

/-- Whatever the order in which the expired leases of a table are ended, and whenever: the table is the same afterwards,
with both indices and the ranges of the free addresses, as many leases have ended, and a host without a lease is granted
the same address. Ending them again then ends none. -/
theorem reclaim_order {σ : Type} (p : Prefix) (expiry : Nat) (device : σ) (ops : List (Operation σ)) (later : Nat)
    {order : List Lease}
    (horder : let t := ((start p expiry device).run ops).leases
      order.Perm (t.leases.filter (t.isExpired later))) :
    let t := ((start p expiry device).run ops).leases
    let u := order.foldl LeaseTable.endLease t
    u = t.reclaim later ∧
    order.length = t.expiredCount later ∧
    (∀ host, t.addressOf? host = none → u.grant later host = t.leaseFor later host) ∧
    u.reclaim later = u ∧ u.expiredCount later = 0 := by
  intro t u
  have h : t.Balanced _ _ _ := sound_run (sound_start p expiry device) ops
  have hu : u = t.reclaim later := LeaseTable.foldl_endLease_perm h.free_canonical horder
  have hcount : order.length = t.expiredCount later := by
    rw [horder.length_eq, LeaseTable.expiredCount, List.countP_eq_length_filter]
  rw [hu]
  refine ⟨rfl, hcount, fun host hnone => ?_, h.reclaim_reclaim, h.expiredCount_reclaim⟩
  rw [LeaseTable.leaseFor, hnone]

/-- Three hosts, of which the second looked its lease up again before the expiry of the others passed. -/
def sampleLapse : List (Operation Unit) :=
  [.addRange (IPv4.ofNat 0xc0000201) (IPv4.ofNat 0xc0000204), .leaseFor ⟨1⟩, .leaseFor ⟨2⟩, .leaseFor ⟨3⟩, .wait 5,
    .leaseFor ⟨2⟩, .wait 6]

theorem reclaim_order_sample :
    let t := ((start Prefix.wellKnown 10 ()).run sampleLapse).leases
    let order : List Lease := [⟨IPv4.ofNat 0xc0000203, ⟨3⟩, 0⟩, ⟨IPv4.ofNat 0xc0000201, ⟨1⟩, 0⟩]
    order.Perm (t.leases.filter (t.isExpired 11)) ∧ order ≠ t.leases.filter (t.isExpired 11) ∧
    order.foldl LeaseTable.endLease t = t.reclaim 11 ∧
    (order.foldl LeaseTable.endLease t).grant 11 ⟨4⟩ = t.leaseFor 11 ⟨4⟩ := by
  intro t order
  have hexpired : t.leases.filter (t.isExpired 11)
      = [⟨IPv4.ofNat 0xc0000201, ⟨1⟩, 0⟩, ⟨IPv4.ofNat 0xc0000203, ⟨3⟩, 0⟩] := by
    decide
  have horder : order.Perm (t.leases.filter (t.isExpired 11)) := by
    rw [hexpired]
    exact List.Perm.swap ..
  obtain ⟨hsame, -, hgrant, -, -⟩ := reclaim_order Prefix.wellKnown 10 () sampleLapse 11 horder
  exact ⟨horder, by rw [hexpired]; decide, hsame, hgrant ⟨4⟩ (by decide)⟩

end Session

end Nat64
