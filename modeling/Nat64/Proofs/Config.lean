import Nat64.Config
import Nat64.Proofs.Header
import Nat64.Proofs.Network

/-!
# The leases to start with

The networks of the pool are added one after the other, and each is compared with the hosts of those before it. So
the first that shares a host with an earlier one is refused, and all are added if there is none. Overlapping
networks are refused, with one exception: a single address that is the first or the last of a larger network is no
host of it, and is added besides it.

* `LeaseTable.Stocked`: a table that holds the hosts of some networks, all of them free.
* `Stocked.addNetwork`, `Stocked.foldlM_addNetwork`, `Stocked.foldlM_addNetwork_nil`: one network
  more, a list of them, and all.
* `Config.buildTable_eq_ok`, `Config.buildTable_eq_error`: how a configuration turns out, and with which addresses.
* `Config.buildTable_overlaps`: for every list of networks.
-/

namespace Nat64

namespace IPv4.Network

/-- Two networks are kept apart: they have no address in common, or one is a single address at the edge of the other. -/
def Apart (m n : Network) : Prop := m.Overlaps n → m.AtEdgeOf n ∨ n.AtEdgeOf m

theorem apart_iff {m n : Network} : m.Apart n ↔ ¬ m.hostRange.Meets n.hostRange := by
  rw [meets_hostRange, ← not_or, not_and_not_right]
  rfl

instance (m n : Network) : Decidable (m.Apart n) := decidable_of_iff _ apart_iff.symm

instance : Std.Symm Apart := ⟨fun _ _ h hoverlap => (h hoverlap.symm).symm⟩

end IPv4.Network

open IPv4.Network (Apart)

/-! ## Adding networks -/

namespace LeaseTable

/-- The hosts of some networks, and no other addresses, were added, and all of them are free. -/
structure Stocked (t : LeaseTable) (nets : List IPv4.Network) : Prop where
  canonical : t.configured.Canonical
  mem_configured : ∀ a, a ∈ t.configured ↔ ∃ net ∈ nets, a ∈ net.hostRange
  free_eq : t.free = t.configured
  unleased : t.leases = [] ∧ t.addresses = []

theorem stocked_empty (expiry : Nat) : Stocked { expiry } [] where
  canonical := Pool.canonical_empty
  mem_configured a := by
    simp only [List.not_mem_nil, false_and, exists_false, iff_false]
    exact Pool.not_mem_nil
  free_eq := rfl
  unleased := ⟨rfl, rfl⟩

namespace Stocked

variable {t : LeaseTable} {nets more : List IPv4.Network} {net : IPv4.Network}

/-- A network collides if an earlier one has one of its hosts. -/
theorem meetsRange_iff (h : t.Stocked nets) :
    t.configured.meetsRange net.hosts.1 net.hosts.2 = true ↔ ∃ earlier ∈ nets, ¬ earlier.Apart net := by
  have hmeets (m : IPv4.Network) : ¬ m.Apart net ↔ ∃ a, a ∈ m.hostRange ∧ a ∈ net.hostRange := by
    rw [IPv4.Network.apart_iff, not_not, Pool.Range.meets_iff m.nonempty_hostRange net.nonempty_hostRange]
  simp only [hmeets]
  rw [Pool.meetsRange_iff h.canonical]
  constructor
  · rintro ⟨a, ha, hnet⟩
    obtain ⟨m, hm, hma⟩ := (h.mem_configured a).1 ha
    exact ⟨m, hm, a, hma, hnet⟩
  · rintro ⟨m, hm, a, hma, hnet⟩
    exact ⟨a, (h.mem_configured a).2 ⟨m, hm, hma⟩, hnet⟩

theorem addNetwork_eq_error (h : t.Stocked nets) (hcollides : ∃ earlier ∈ nets, ¬ earlier.Apart net) :
    t.addNetwork net = .error (.rangeCollision net.hosts.1 net.hosts.2) := by
  have hordered : ¬ net.hosts.2 < net.hosts.1 := Nat.not_lt.2 net.nonempty_hostRange
  rw [LeaseTable.addNetwork, addRange, if_neg hordered, if_pos (h.meetsRange_iff.2 hcollides)]

/-- One network more. -/
theorem addNetwork (h : t.Stocked nets) (hapart : ∀ earlier ∈ nets, earlier.Apart net) :
    ∃ t', t.addNetwork net = .ok t' ∧ t'.Stocked (nets ++ [net]) := by
  have hordered : ¬ net.hosts.2 < net.hosts.1 := Nat.not_lt.2 net.nonempty_hostRange
  have hfree : ¬ t.configured.meetsRange net.hosts.1 net.hosts.2 = true := by
    rw [h.meetsRange_iff]
    rintro ⟨earlier, hearlier, hnot⟩
    exact hnot (hapart earlier hearlier)
  refine ⟨_, by rw [LeaseTable.addNetwork, addRange, if_neg hordered, if_neg hfree], ?_⟩
  exact {
    canonical := Pool.canonical_insertRange h.canonical
    mem_configured := fun a => by
      show a ∈ t.configured.insertRange net.hosts.1 net.hosts.2 ↔ _
      rw [Pool.mem_insertRange h.canonical, h.mem_configured]
      simp only [List.mem_append, List.mem_singleton, or_and_right, exists_or, exists_eq_left]
      rfl
    free_eq := congrArg (Pool.insertRange · net.hosts.1 net.hosts.2) h.free_eq
    unleased := h.unleased }

/-- A list of networks. -/
theorem foldlM_addNetwork (h : t.Stocked nets) (hapart : (nets ++ more).Pairwise Apart) :
    ∃ t', more.foldlM LeaseTable.addNetwork t = .ok t' ∧ t'.Stocked (nets ++ more) := by
  induction more generalizing t nets with
  | nil =>
    rw [List.append_nil]
    exact ⟨t, rfl, h⟩
  | cons net more ih =>
    have hearlier : ∀ earlier ∈ nets, earlier.Apart net := fun earlier hearlier =>
      (List.pairwise_append.1 hapart).2.2 earlier hearlier net List.mem_cons_self
    rw [List.append_cons] at hapart ⊢
    obtain ⟨next, hnext, hstocked⟩ := h.addNetwork hearlier
    obtain ⟨t', ht', hall⟩ := ih hstocked hapart
    refine ⟨t', ?_, hall⟩
    rw [List.foldlM_cons, hnext]
    exact ht'

/-- All networks that there are. -/
theorem foldlM_addNetwork_nil (h : t.Stocked []) (hapart : more.Pairwise Apart) :
    ∃ t', more.foldlM LeaseTable.addNetwork t = .ok t' ∧ t'.Stocked more := by
  rw [← List.nil_append more] at hapart
  exact h.foldlM_addNetwork hapart

/-- A list of networks of which one collides with one before it. -/
theorem foldlM_addNetwork_eq_error (h : t.Stocked []) {before after : List IPv4.Network}
    (hapart : before.Pairwise Apart) (hcollides : ∃ earlier ∈ before, ¬ earlier.Apart net) :
    (before ++ net :: after).foldlM LeaseTable.addNetwork t = .error (.rangeCollision net.hosts.1 net.hosts.2) := by
  obtain ⟨t', ht', hstocked⟩ := h.foldlM_addNetwork_nil hapart
  rw [List.foldlM_append, ht']
  show (net :: after).foldlM LeaseTable.addNetwork t' = _
  rw [List.foldlM_cons, hstocked.addNetwork_eq_error hcollides]
  rfl

end Stocked

/-! ## Keeping addresses back -/

/-- Addresses may be kept back twice, and though they are not free. -/
theorem foldl_reserve {t : LeaseTable} (h : t.free.Canonical) (reserved : List IPv4) :
    (reserved.foldl reserve t).free.Canonical ∧
      (∀ a, a ∈ (reserved.foldl reserve t).free ↔ a ∈ t.free ∧ a ∉ reserved) ∧
      (reserved.foldl reserve t).leases = t.leases ∧ (reserved.foldl reserve t).addresses = t.addresses := by
  induction reserved generalizing t with
  | nil => exact ⟨h, fun a => by simp, rfl, rfl⟩
  | cons kept reserved ih =>
    obtain ⟨hcanonical, hmem, hleases, haddresses⟩ := ih (t := t.reserve kept) (Pool.canonical_erase h)
    refine ⟨hcanonical, fun a => ?_, hleases, haddresses⟩
    rw [List.foldl_cons, hmem, reserve, Pool.mem_erase, List.mem_cons, not_or, and_assoc]

end LeaseTable

/-! ## Configurations -/

/-- In a list of which not all pairs are related there is a first entry that an earlier one is not related to. -/
theorem exists_first_of_not_pairwise {α : Type} {R : α → α → Prop} {l : List α} (h : ¬ l.Pairwise R) :
    ∃ before x after, l = before ++ x :: after ∧ before.Pairwise R ∧ ∃ earlier ∈ before, ¬ R earlier x := by
  induction l using List.reverseRecOn with
  | nil => exact absurd List.Pairwise.nil h
  | append_singleton l x ih =>
    by_cases hl : l.Pairwise R
    · refine ⟨l, x, [], rfl, hl, ?_⟩
      by_contra hnone
      apply h
      refine List.pairwise_append.2 ⟨hl, List.pairwise_singleton R x, fun earlier hearlier y hy => ?_⟩
      rw [List.mem_singleton.1 hy]
      exact by_contra fun hnot => hnone ⟨earlier, hearlier, hnot⟩
    · obtain ⟨before, y, after, rfl, hbefore, hearlier⟩ := ih hl
      exact ⟨before, y, after ++ [x], by simp, hbefore, hearlier⟩

namespace Config

variable {c : Config} {t : LeaseTable} {a : IPv4}

theorem buildTable_eq_error {before after : List IPv4.Network} {net : IPv4.Network}
    (hpool : c.pool = before ++ net :: after)
    (hapart : before.Pairwise Apart) (hcollides : ∃ earlier ∈ before, ¬ earlier.Apart net) :
    c.buildTable = .error (.rangeCollision net.hosts.1 net.hosts.2) := by
  have hstart := LeaseTable.stocked_empty (c.expiry * 1000000000)
  rw [buildTable, hpool, hstart.foldlM_addNetwork_eq_error hapart hcollides]
  rfl

/-- The networks are apart if a table is made, and only then. -/
theorem pairwise_apart_iff : c.pool.Pairwise Apart ↔ ∃ t, c.buildTable = .ok t := by
  constructor
  · intro hapart
    have hstart := LeaseTable.stocked_empty (c.expiry * 1000000000)
    obtain ⟨t, ht, -⟩ := hstart.foldlM_addNetwork_nil hapart
    exact ⟨_, by rw [buildTable, ht]; rfl⟩
  · rintro ⟨t, ht⟩
    by_contra hnot
    obtain ⟨before, net, after, hpool, hapart, hcollides⟩ := exists_first_of_not_pairwise hnot
    rw [buildTable_eq_error hpool hapart hcollides] at ht
    cases ht

/-- What a table has to start with. -/
theorem buildTable_eq_ok (h : c.buildTable = .ok t) :
    t.free.Canonical ∧ (∀ a, a ∈ t.free ↔ (∃ net ∈ c.pool, a ∈ net.hostRange) ∧ a ∉ c.reserved) ∧
      t.leases = [] ∧ t.addresses = [] := by
  have hstart := LeaseTable.stocked_empty (c.expiry * 1000000000)
  obtain ⟨stock, hstock, hall⟩ := hstart.foldlM_addNetwork_nil (pairwise_apart_iff.2 ⟨t, h⟩)
  have hcanonical : stock.free.Canonical := by
    rw [hall.free_eq]
    exact hall.canonical
  obtain ⟨hfree, hmem, hleases, haddresses⟩ := LeaseTable.foldl_reserve hcanonical c.reserved
  rw [buildTable, hstock] at h
  cases h
  refine ⟨hfree, fun a => ?_, hleases.trans hall.unleased.1, haddresses.trans hall.unleased.2⟩
  rw [hmem, hall.free_eq, hall.mem_configured]

/-- An end of a large network is a host of another one only if that is this single address. -/
theorem end_mem_hostRange {net other : IPv4.Network} (hapart : c.pool.Pairwise Apart) (hnet : net ∈ c.pool)
    (hother : other ∈ c.pool) (hlarge : net.length < 31) (hend : a = net.first ∨ a = net.last)
    (ha : a ∈ other.hostRange) : other.length = 32 ∧ other.address = a := by
  have hmem : a ∈ net := by
    rcases hend with rfl | rfl
    · exact net.first_mem
    · exact net.last_mem
  have hnohost : a ∉ net.hostRange := by
    intro hhost
    obtain ⟨hfirst, hlast⟩ := (IPv4.Network.mem_hostRange.1 hhost).2 hlarge
    rcases hend with hend | hend
    · exact hfirst hend
    · exact hlast hend
  obtain ⟨hin, -⟩ := IPv4.Network.mem_hostRange.1 ha
  have hne : other ≠ net := fun he => hnohost (he ▸ ha)
  rcases hapart.forall hother hnet hne ⟨a, hin, hmem⟩ with hedge | hedge
  · exact ⟨hedge.1, (IPv4.Network.eq_address hedge.1 hin).symm⟩
  · exact absurd hedge.1 (by omega)

/-- A configuration whose networks overlap is refused, for the hosts of the first network that overlaps an earlier one,
and every other is accepted. One pair alone may overlap and is accepted: a single address that is the first or the last
of a larger network. In a table that is made, such an end of a network is free if the pool lists this address for itself
and it is not kept back, and in no other case. -/
theorem buildTable_overlaps (c : Config) :
    (¬ c.pool.Pairwise Apart → ∃ before net after, c.pool = before ++ net :: after ∧ before.Pairwise Apart ∧
      (∃ earlier ∈ before, ¬ earlier.Apart net) ∧ c.buildTable = .error (.rangeCollision net.hosts.1 net.hosts.2)) ∧
    (c.pool.Pairwise Apart → ∃ t, c.buildTable = .ok t) ∧
    (∀ t, c.buildTable = .ok t → ∀ net ∈ c.pool, net.length < 31 → ∀ a, a = net.first ∨ a = net.last →
      (a ∈ t.free ↔ (∃ one ∈ c.pool, one.length = 32 ∧ one.address = a) ∧ a ∉ c.reserved)) := by
  refine ⟨fun hnot => ?_, pairwise_apart_iff.1, fun t ht net hnet hlarge a hend => ?_⟩
  · obtain ⟨before, net, after, hpool, hapart, hcollides⟩ := exists_first_of_not_pairwise hnot
    exact ⟨before, net, after, hpool, hapart, hcollides, buildTable_eq_error hpool hapart hcollides⟩
  · have hapart := pairwise_apart_iff.2 ⟨t, ht⟩
    rw [(buildTable_eq_ok ht).2.1]
    refine and_congr_left fun _ => ⟨?_, ?_⟩
    · rintro ⟨other, hother, ha⟩
      exact ⟨other, hother, end_mem_hostRange hapart hnet hother hlarge hend ha⟩
    · rintro ⟨one, hone, hlength, rfl⟩
      refine ⟨one, hone, IPv4.Network.mem_hostRange.2 ⟨one.address_mem, fun hlt => ?_⟩⟩
      exact absurd hlt (by omega)

/-- `192.0.2.0/24`, and the network in it that has the same address and another length. -/
def sampleNetwork (length : Nat) (h : length ≤ 32) : IPv4.Network := ⟨IPv4.ofNat 0xc0000200, length, h⟩

/-- The third of these networks is refused for the second, while the first is a single address at its edge. Without the
third, the pool is accepted, and the edge is free. -/
theorem buildTable_overlaps_samples :
    let block := sampleNetwork 24 (by decide)
    let inner := sampleNetwork 26 (by decide)
    let single := sampleNetwork 32 (by decide)
    (¬ [single, block, inner].Pairwise Apart ∧ ∃ before net after, [single, block, inner] = before ++ net :: after ∧
      before.Pairwise Apart ∧ (∃ earlier ∈ before, ¬ earlier.Apart net) ∧
      ({ pool := [single, block, inner] } : Config).buildTable = .error (.rangeCollision net.hosts.1 net.hosts.2)) ∧
    ([single, block].Pairwise Apart ∧ block.length < 31 ∧
      ∃ t, ({ pool := [single, block] } : Config).buildTable = .ok t ∧
        (block.first ∈ t.free ↔
          (∃ one ∈ [single, block], one.length = 32 ∧ one.address = block.first) ∧ block.first ∉ [])) := by
  intro block inner single
  obtain ⟨hrefused, -, -⟩ := buildTable_overlaps { pool := [single, block, inner] }
  obtain ⟨-, haccepted, hends⟩ := buildTable_overlaps { pool := [single, block] }
  have hmeet : ¬ [single, block, inner].Pairwise Apart := by decide
  have hapart : [single, block].Pairwise Apart := by decide
  obtain ⟨t, ht⟩ := haccepted hapart
  exact ⟨⟨hmeet, hrefused hmeet⟩, hapart, by decide, t, ht,
    hends t ht block (by simp) (by decide) block.first (Or.inl rfl)⟩

/-- Two networks of a pool overlap and both are added, so that the first host is leased the
address of the larger network. -/
theorem buildTable_of_edge :
    let block := sampleNetwork 24 (by decide)
    let single := sampleNetwork 32 (by decide)
    block.Overlaps single ∧
      ({ pool := [block, single] } : Config).buildTable.map (fun t => (t.leaseFor 0 ⟨1⟩).1)
        = .ok (.ok block.first) := by
  intro block single
  have hedge : single.AtEdgeOf block := by decide
  exact ⟨hedge.overlaps.symm, by decide⟩

end Config

end Nat64
