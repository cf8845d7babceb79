import Nat64.Address.Network
import Nat64.Proofs.Pool

/-!
# Blocks of addresses

Two networks are nested or have nothing in common, as the size of the one divides that of the other. Their hosts are
another matter: a block of more than two addresses has no host at its ends, so a network of one address may lie inside
it and still share no host with it. No other pair of overlapping networks can.

* `mem_iff`: the members are the addresses with the same leading bits.
* `mem_of_overlaps`: of two networks that overlap, one holds the other.
* `mem_hostRange`: which members are hosts.
* `meets_hostRange`: when two networks have a host in common.
-/

namespace Nat64.IPv4.Network

-- Powers of natural numbers mean the same here whatever else is in scope.
attribute [local instance (2000)] instPowNat

variable {net m n : Network} {a : IPv4}

/-! ## Sizes -/

theorem size_eq (net : Network) : net.size = 2 ^ (32 - net.length) := rfl

theorem size_pos (net : Network) : 0 < net.size := Nat.two_pow_pos _

/-- A network of fewer shared bits has a multiple of the size. -/
theorem size_dvd (h : m.length ≤ n.length) : n.size ∣ m.size := Nat.pow_dvd_pow 2 (Nat.sub_le_sub_left h 32)

theorem size_dvd_all (net : Network) : net.size ∣ 0x100000000 := Nat.pow_dvd_pow 2 (Nat.sub_le 32 net.length)

/-- The size tells the lengths apart that have no ends to leave out. -/
theorem size_cases (net : Network) :
    net.length < 31 ∧ 4 ≤ net.size ∨ net.length = 31 ∧ net.size = 2 ∨ net.length = 32 ∧ net.size = 1 := by
  have hle := net.length_le
  rcases Nat.lt_or_ge net.length 31 with hlt | hge
  · have hle : 2 ^ 2 ≤ net.size := Nat.pow_le_pow_right (by decide) (by omega)
    exact Or.inl ⟨hlt, hle⟩
  · rcases Nat.lt_or_ge net.length 32 with hlt | hge'
    · have hlength : net.length = 31 := by omega
      exact Or.inr (Or.inl ⟨hlength, by rw [size_eq, hlength]⟩)
    · have hlength : net.length = 32 := by omega
      exact Or.inr (Or.inr ⟨hlength, by rw [size_eq, hlength]⟩)

/-! ## Members -/

/-- A block lies within the addresses there are. -/
theorem block_le (net : Network) : net.address.toNat / net.size * net.size + net.size ≤ 0x100000000 := by
  obtain ⟨k, hk⟩ := net.size_dvd_all
  have hlt := net.address.toNat_lt
  have hblock : net.address.toNat / net.size < k := by
    rw [Nat.div_lt_iff_lt_mul net.size_pos, Nat.mul_comm, ← hk]
    exact hlt
  calc net.address.toNat / net.size * net.size + net.size
    _ = (net.address.toNat / net.size + 1) * net.size := by rw [Nat.add_mul, Nat.one_mul]
    _ ≤ k * net.size := Nat.mul_le_mul_right _ hblock
    _ = 0x100000000 := by rw [Nat.mul_comm, ← hk]

theorem toNat_first (net : Network) : net.first.toNat = net.address.toNat / net.size * net.size := by
  have hle := net.block_le
  have hpos := net.size_pos
  rw [first, toNat_ofNat, Nat.mod_eq_of_lt (by omega)]

theorem toNat_last (net : Network) : net.last.toNat = net.first.toNat + (net.size - 1) := by
  have hle := net.block_le
  have hpos := net.size_pos
  rw [toNat_first, last, toNat_ofNat, Nat.mod_eq_of_lt (by omega)]

theorem mem_def : a ∈ net ↔ net.first.toNat ≤ a.toNat ∧ a.toNat ≤ net.last.toNat := Iff.rfl

/-- The members share their leading bits. -/
theorem mem_iff : a ∈ net ↔ a.toNat / net.size = net.address.toNat / net.size := by
  have hpos := net.size_pos
  rw [mem_def, toNat_last, toNat_first, Nat.div_eq_iff hpos, Nat.mul_comm]
  omega

theorem first_mem (net : Network) : net.first ∈ net := by
  rw [mem_def, toNat_last]
  omega

theorem last_mem (net : Network) : net.last ∈ net := by
  rw [mem_def, toNat_last]
  omega

theorem address_mem (net : Network) : net.address ∈ net := mem_iff.2 rfl

/-! ## Two networks -/

/-- Two networks have an address in common. -/
def Overlaps (m n : Network) : Prop := ∃ a, a ∈ m ∧ a ∈ n

theorem Overlaps.symm (h : m.Overlaps n) : n.Overlaps m := by
  obtain ⟨a, hm, hn⟩ := h
  exact ⟨a, hn, hm⟩

/-- Of two networks that overlap, the one with fewer shared bits holds the other. -/
theorem mem_of_overlaps (h : m.Overlaps n) (hle : m.length ≤ n.length) (ha : a ∈ n) : a ∈ m := by
  obtain ⟨b, hbm, hbn⟩ := h
  obtain ⟨k, hk⟩ := size_dvd hle
  rw [mem_iff] at ha hbm hbn ⊢
  rw [← hbm, hk, ← Nat.div_div_eq_div_mul, ← Nat.div_div_eq_div_mul, ha, hbn]

/-! ## Hosts -/

/-- The addresses for hosts, as a range. -/
def hostRange (net : Network) : Pool.Range := ⟨net.hosts.1, net.hosts.2⟩

theorem toNat_first_hostRange (net : Network) :
    net.hostRange.first.toNat = net.first.toNat + if net.length < 31 then 1 else 0 := by
  have hlast := net.toNat_last
  have hlt := net.last.toNat_lt
  have hcases := net.size_cases
  unfold hostRange hosts
  split
  · rw [toNat_ofNat, Nat.mod_eq_of_lt (by omega)]
  · rfl

theorem toNat_last_hostRange (net : Network) :
    net.hostRange.last.toNat = net.last.toNat - if net.length < 31 then 1 else 0 := by
  have hlt := net.last.toNat_lt
  unfold hostRange hosts
  split
  · rw [toNat_ofNat, Nat.mod_eq_of_lt (by omega)]
  · rfl

theorem nonempty_hostRange (net : Network) : net.hostRange.Nonempty := by
  have hlast := net.toNat_last
  have hcases := net.size_cases
  rw [Pool.Range.nonempty_def, toNat_first_hostRange, toNat_last_hostRange]
  split <;> omega

/-- All members of a block of one or two are hosts, and of a larger one all but its ends. -/
theorem mem_hostRange : a ∈ net.hostRange ↔ a ∈ net ∧ (net.length < 31 → a ≠ net.first ∧ a ≠ net.last) := by
  have hlast := net.toNat_last
  have hcases := net.size_cases
  rw [Pool.Range.mem_def, toNat_first_hostRange, toNat_last_hostRange, mem_def, ← toNat_ne, ← toNat_ne]
  split <;> omega

/-- A network of one address, which is the first or the last of a block of more than two. -/
def AtEdgeOf (m n : Network) : Prop := m.length = 32 ∧ n.length < 31 ∧ (m.address = n.first ∨ m.address = n.last)

instance (m n : Network) : Decidable (m.AtEdgeOf n) :=
  inferInstanceAs (Decidable (m.length = 32 ∧ n.length < 31 ∧ (m.address = n.first ∨ m.address = n.last)))

/-- A network of one address has no other. -/
theorem eq_address (hlength : net.length = 32) (ha : a ∈ net) : a = net.address := by
  have hsize : net.size = 1 := by rw [size_eq, hlength]
  rw [mem_iff, hsize, Nat.div_one, Nat.div_one] at ha
  exact toNat_inj.1 ha

theorem AtEdgeOf.overlaps (h : m.AtEdgeOf n) : m.Overlaps n := by
  obtain ⟨-, -, hfirst | hlast⟩ := h
  · exact ⟨n.first, hfirst ▸ m.address_mem, n.first_mem⟩
  · exact ⟨n.last, hlast ▸ m.address_mem, n.last_mem⟩

/-- The address of a network at the edge of another is no host of that. -/
theorem AtEdgeOf.not_host (h : m.AtEdgeOf n) (ha : a ∈ m) : a ∉ n.hostRange := by
  obtain ⟨hlength, hlt, hedge⟩ := h
  intro hhost
  obtain ⟨hfirst, hlast⟩ := (mem_hostRange.1 hhost).2 hlt
  rw [eq_address hlength ha] at hfirst hlast
  rcases hedge with hedge | hedge
  · exact hfirst hedge
  · exact hlast hedge

/-- A network inside another that is not at its edge has a host of it. -/
theorem meets_of_inside (h : m.Overlaps n) (hle : m.length ≤ n.length) (hedge : ¬ n.AtEdgeOf m) :
    m.hostRange.Meets n.hostRange := by
  have hlow := (mem_def.1 (mem_of_overlaps h hle n.first_mem)).1
  have hhigh := (mem_def.1 (mem_of_overlaps h hle n.last_mem)).2
  have hm := m.size_cases
  have hn := n.size_cases
  have hmlast := m.toNat_last
  have hnlast := n.toNat_last
  -- a single address is the first and the last of its block, so it is neither end of the other
  have hsingle : n.length = 32 → m.length < 31 → n.first.toNat ≠ m.first.toNat ∧ n.first.toNat ≠ m.last.toNat := by
    intro hlength hlt
    rw [toNat_ne, toNat_ne, eq_address hlength n.first_mem]
    exact not_or.1 fun hends => hedge ⟨hlength, hlt, hends⟩
  rw [Pool.Range.meets_def, toNat_first_hostRange, toNat_last_hostRange, toNat_first_hostRange, toNat_last_hostRange]
  split <;> split <;> omega

/-- Two networks share a host if they overlap, unless one is a single address at the edge of the other. -/
theorem meets_hostRange :
    m.hostRange.Meets n.hostRange ↔ m.Overlaps n ∧ ¬ m.AtEdgeOf n ∧ ¬ n.AtEdgeOf m := by
  constructor
  · intro hmeets
    obtain ⟨a, hm, hn⟩ := (Pool.Range.meets_iff m.nonempty_hostRange n.nonempty_hostRange).1 hmeets
    refine ⟨⟨a, (mem_hostRange.1 hm).1, (mem_hostRange.1 hn).1⟩, ?_, ?_⟩
    · intro hedge
      exact hedge.not_host (mem_hostRange.1 hm).1 hn
    · intro hedge
      exact hedge.not_host (mem_hostRange.1 hn).1 hm
  · rintro ⟨hoverlap, hmn, hnm⟩
    rcases Nat.le_total m.length n.length with hle | hle
    · exact meets_of_inside hoverlap hle hnm
    · exact (meets_of_inside hoverlap.symm hle hmn).symm

end Nat64.IPv4.Network
