import Nat64.Proofs.Config
import Nat64.Proofs.Pool.Ascending
import Nat64.Proofs.Reclaiming

/-!
# The addresses that a configuration leases

A table that is made from a configuration has the hosts of its networks to lease, without the addresses kept back. If
hosts that hold nothing come one after the other while no lease expires, they are granted these addresses from the
lowest up, and everyone who comes after the last of them goes away empty-handed.

* `LeaseTable.leaseEach`: hosts that ask for an address at one time.
* `Awaits.leaseFor`, `Awaits.leaseEach`: what the next of them is told, and what all are.
* `Config.buildTable_leases`: for every configuration from which a table is made.
-/

namespace Nat64

namespace LeaseTable

/-! ## One host after the other -/

/-- Asks for the addresses of several hosts at one time: what each is told, and the table after that. -/
def leaseEach (now : Nat) : List IPv6 → LeaseTable → List (Except Fault IPv4) × LeaseTable
  | [], t => ([], t)
  | host :: hosts, t =>
    let (answer, t) := t.leaseFor now host
    let (answers, t) := leaseEach now hosts t
    (answer :: answers, t)

/-- What hosts are told for which there are these addresses. -/
def allotted (addresses : List IPv4) (hosts : List IPv6) : List (Except Fault IPv4) :=
  (addresses.take hosts.length).map .ok ++ (hosts.drop addresses.length).map fun host => .error (.poolExhausted host)

theorem allotted_cons (a : IPv4) (addresses : List IPv4) (host : IPv6) (hosts : List IPv6) :
    allotted (a :: addresses) (host :: hosts) = .ok a :: allotted addresses hosts := rfl

theorem allotted_nil (hosts : List IPv6) : allotted [] hosts = hosts.map fun host => .error (.poolExhausted host) := by
  rw [allotted, List.take_nil]
  rfl

/-- None of some hosts holds an address, and no lease has expired. -/
structure Awaits (t : LeaseTable) (now : Nat) (hosts : List IPv6) : Prop where
  canonical : t.free.Canonical
  unexpired : ∀ l ∈ t.leases, ¬ t.isExpired now l = true
  unheld : ∀ host ∈ hosts, t.addressOf? host = none

namespace Awaits

variable {t t' : LeaseTable} {now : Nat} {host : IPv6} {hosts : List IPv6} {a : IPv4}

theorem tail (h : t.Awaits now (host :: hosts)) : t.Awaits now hosts :=
  { h with unheld := fun other hother => h.unheld other (List.mem_cons_of_mem host hother) }

/-- Nothing ends for a host that asks, as nothing has expired. -/
theorem leaseFor_eq (h : t.Awaits now (host :: hosts)) : t.leaseFor now host = t.grant now host := by
  rw [LeaseTable.leaseFor, h.unheld host List.mem_cons_self, reclaim_of_unexpired h.unexpired]

/-- A lease that is granted has not expired, and the hosts that follow still hold nothing. -/
theorem grant (h : t.Awaits now (host :: hosts)) (hnew : host ∉ hosts) (ht : t.grant now host = (.ok a, t')) :
    t.free.toList = a :: t'.free.toList ∧ t'.Awaits now hosts := by
  have haddress := addressOf?_of_grant ht
  unfold LeaseTable.grant at ht
  split at ht <;> cases ht
  rename_i free hpop
  refine ⟨Pool.toList_of_popLowest? h.canonical hpop, ?_⟩
  exact {
    canonical := (Pool.popLowest?_eq_some h.canonical hpop).1
    unexpired := fun l hl => by
      rcases List.mem_append.1 hl with hl | hl
      · exact h.unexpired l hl
      · rw [List.mem_singleton.1 hl, isExpired, Nat.sub_self]
        simp
    unheld := fun other hother => by
      have hne : host ≠ other := fun he => hnew (he ▸ hother)
      rw [haddress other, h.unheld other (List.mem_cons_of_mem host hother), if_neg hne]
      rfl }

/-- The next host is granted the lowest address, or is told that there is none, and the table stays as it is. -/
theorem leaseFor (h : t.Awaits now (host :: hosts)) (hnew : host ∉ hosts) :
    (∃ a t', t.leaseFor now host = (.ok a, t') ∧ t.free.toList = a :: t'.free.toList ∧ t'.Awaits now hosts) ∨
      t.leaseFor now host = (.error (.poolExhausted host), t) ∧ t.free.toList = [] := by
  rw [h.leaseFor_eq]
  cases hpop : t.free.popLowest? with
  | none => exact Or.inr ⟨by rw [LeaseTable.grant, hpop], Pool.toList_of_popLowest?_eq_none hpop⟩
  | some taken =>
    obtain ⟨a, free⟩ := taken
    have hgrant : t.grant now host = (.ok a, (t.grant now host).2) := by rw [LeaseTable.grant, hpop]
    exact Or.inl ⟨a, _, hgrant, h.grant hnew hgrant⟩

/-- All of them are granted the free addresses in order, as far as these go. -/
theorem leaseEach (h : t.Awaits now hosts) (hnodup : hosts.Nodup) :
    (LeaseTable.leaseEach now hosts t).1 = allotted t.free.toList hosts := by
  induction hosts generalizing t with
  | nil => rw [LeaseTable.leaseEach, allotted, List.length_nil, List.take_zero, List.drop_nil]; rfl
  | cons host hosts ih =>
    obtain ⟨hnew, hrest⟩ := List.nodup_cons.1 hnodup
    rcases h.leaseFor hnew with ⟨a, t', hlease, hlist, hawaits⟩ | ⟨hlease, hlist⟩
    · rw [LeaseTable.leaseEach, hlease, hlist, allotted_cons, ← ih hawaits hrest]
    · have hafter := ih h.tail hrest
      rw [hlist, allotted_nil] at hafter
      rw [LeaseTable.leaseEach, hlease, hlist, allotted_nil, List.map_cons, ← hafter]

end Awaits

end LeaseTable

/-! ## Configurations -/

namespace Config

/-- The addresses that a configuration leases: the members of its networks, all of a block of one or two and all but the
two ends of a larger one, without those kept back. -/
def leasable (c : Config) : Set IPv4 :=
  {a | (∃ net ∈ c.pool, a ∈ net ∧ (net.length < 31 → a ≠ net.first ∧ a ≠ net.last)) ∧ a ∉ c.reserved}

/-- The free addresses of a table that is made from a configuration are those that it leases. Listed in ascending order
they are as many as the size says, and hosts that come one after the other at any one time are granted them in this
order until there are no more; all hosts after that are refused. -/
theorem buildTable_leases {c : Config} {t : LeaseTable} (h : c.buildTable = .ok t) :
    {a | a ∈ t.free} = c.leasable ∧ t.free.size = c.leasable.ncard ∧
    (t.free.toList.Pairwise (· < ·) ∧ (∀ a, a ∈ t.free.toList ↔ a ∈ c.leasable) ∧ t.free.toList.length = t.free.size) ∧
    ∀ (now : Nat) (hosts : List IPv6), hosts.Nodup →
      (t.leaseEach now hosts).1 = (t.free.toList.take hosts.length).map .ok
        ++ (hosts.drop t.free.size).map fun host => .error (.poolExhausted host) := by
  obtain ⟨hcanonical, hfree, hleases, haddresses⟩ := buildTable_eq_ok h
  have hmem : ∀ a, a ∈ t.free ↔ a ∈ c.leasable := fun a => by
    rw [hfree]
    simp only [IPv4.Network.mem_hostRange]
    rfl
  have hset : {a | a ∈ t.free} = c.leasable := Set.ext hmem
  refine ⟨hset, ?_, ⟨Pool.pairwise_toList hcanonical, fun a => ?_, Pool.length_toList t.free⟩,
    fun now hosts hnodup => ?_⟩
  · rw [← hset, Pool.size_eq_ncard hcanonical]
  · rw [Pool.mem_toList hcanonical, hmem]
  · have hawaits : t.Awaits now hosts := {
      canonical := hcanonical
      unexpired := by simp [hleases]
      unheld := fun host _ => by rw [LeaseTable.addressOf?, haddresses]; rfl }
    rw [hawaits.leaseEach hnodup, LeaseTable.allotted, Pool.length_toList]

/-- `198.51.100.5/31` and `192.0.2.0/30`. One of the addresses kept back is listed twice, and one is in no network. -/
def samplePool : Config where
  pool := [⟨IPv4.ofNat 0xc6336405, 31, by decide⟩, ⟨IPv4.ofNat 0xc0000200, 30, by decide⟩]
  reserved := [IPv4.ofNat 0xc0000201, IPv4.ofNat 0xc0000201, IPv4.ofNat 0x0a000001]

/-- Three addresses are left, for the first three of four hosts. -/
theorem buildTable_leases_sample :
    ∃ t, samplePool.buildTable = .ok t ∧ {a | a ∈ t.free} = samplePool.leasable ∧
      (t.leaseEach 7 [⟨4⟩, ⟨1⟩, ⟨3⟩, ⟨2⟩]).1
        = [.ok (IPv4.ofNat 0xc0000202), .ok (IPv4.ofNat 0xc6336404), .ok (IPv4.ofNat 0xc6336405),
          .error (.poolExhausted ⟨2⟩)] := by
  have hbuilt : samplePool.buildTable.map (·.free.toList)
      = .ok [IPv4.ofNat 0xc0000202, IPv4.ofNat 0xc6336404, IPv4.ofNat 0xc6336405] := by decide
  cases ht : samplePool.buildTable with
  | error f =>
    rw [ht] at hbuilt
    cases hbuilt
  | ok t =>
    rw [ht] at hbuilt
    have hlist : t.free.toList = _ := Except.ok.inj hbuilt
    obtain ⟨hset, -, ⟨-, -, hlength⟩, hasked⟩ := buildTable_leases ht
    have hanswers := hasked 7 [⟨4⟩, ⟨1⟩, ⟨3⟩, ⟨2⟩] (by decide)
    rw [← hlength, hlist] at hanswers
    exact ⟨t, rfl, hset, hanswers⟩

end Config

end Nat64
