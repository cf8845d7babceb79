import Mathlib.Data.Set.Operations
import Nat64.Address.Prefix
import Nat64.Proofs.Bytes

/-!
# A prefix as a copy of the IPv4 addresses

The first twelve octets of an address say which prefix it belongs to, the last four which IPv4 address it stands for.
Under one prefix the two are in one-to-one correspondence.

* `IPv6.octets_eq`: the octets of an address in these two parts.
* `Prefix.mem_iff_octets`, `Prefix.octets_embed`, `Prefix.octets_extract`: members and their addresses, by octets.
* `Prefix.ofAddress_eq`, `Prefix.ofNetwork_eq`: any member makes the prefix, alone or as a network.
* `Prefix.maps_onto_members`: the correspondence, however the prefix was made, and the lengths that are refused.
-/

namespace Nat64

-- Powers of natural numbers mean the same here whatever else is in scope.
attribute [local instance (2000)] instPowNat

namespace Prefix

/-- The prefix that an address belongs to. -/
def of (v : IPv6) : Prefix := ⟨v.bits.extractLsb' 32 96⟩

variable {p : Prefix} {v w : IPv6}

theorem mem_iff_of : v ∈ p ↔ of v = p := by
  rw [mem_def, of]
  exact ⟨fun h => congrArg Prefix.mk h, congrArg high⟩

theorem toNat_high_of (v : IPv6) : (of v).high.toNat = v.toNat / 0x100000000 := by
  have hlt := v.toNat_lt
  rw [of, BitVec.extractLsb'_toNat, Nat.shiftRight_eq_div_pow]
  exact Nat.mod_eq_of_lt (by omega)

theorem toNat_extract (p : Prefix) (v : IPv6) : (p.extract v).toNat = v.toNat % 0x100000000 := by
  rw [extract, IPv4.toNat, BitVec.extractLsb'_toNat, Nat.shiftRight_zero]
  rfl

/-! ## Octets -/

/-- Twelve octets for the prefix, four for the IPv4 address. -/
theorem octets_eq (p : Prefix) (v : IPv6) : v.octets = Bytes.ofNat 12 (of v).high.toNat ++ (p.extract v).octets := by
  have hlow : Bytes.ofNat 4 v.toNat = Bytes.ofNat 4 (v.toNat % 0x100000000) := (Bytes.ofNat_mod 4 _).symm
  rw [IPv6.octets, Bytes.ofNat_add_four 12, toNat_high_of, IPv4.octets, toNat_extract, hlow]

theorem octets_extract (p : Prefix) (v : IPv6) : (p.extract v).octets = v.octets.drop 12 := by
  rw [octets_eq p v, List.drop_left' (Bytes.length_ofNat 12 _)]

theorem octets_take (v : IPv6) : v.octets.take 12 = Bytes.ofNat 12 (of v).high.toNat := by
  rw [octets_eq (of v) v, List.take_left' (Bytes.length_ofNat 12 _)]

theorem of_eq_iff_octets : of v = of w ↔ v.octets.take 12 = w.octets.take 12 := by
  rw [octets_take, octets_take]
  refine ⟨fun h => by rw [h], fun h => ?_⟩
  have hv := (of v).high.isLt
  have hw := (of w).high.isLt
  have hnumber := congrArg Bytes.toNat h
  rw [Bytes.toNat_ofNat, Bytes.toNat_ofNat, Nat.mod_eq_of_lt (by omega), Nat.mod_eq_of_lt (by omega)] at hnumber
  exact congrArg Prefix.mk (BitVec.eq_of_toNat_eq hnumber)

/-- Members share their first twelve octets. -/
theorem mem_iff_octets (hw : w ∈ p) : v ∈ p ↔ v.octets.take 12 = w.octets.take 12 := by
  rw [mem_iff_of, ← mem_iff_of.1 hw]
  exact of_eq_iff_octets

theorem octets_embed (hw : w ∈ p) (a : IPv4) : (p.embed a).octets = w.octets.take 12 ++ a.octets := by
  have hfront := (mem_iff_octets hw).1 (p.embed_mem a)
  have hback := octets_extract p (p.embed a)
  rw [extract_embed] at hback
  rw [← hfront, hback, List.take_append_drop]

/-! ## Making a prefix -/

theorem ofAddress_eq (hv : v ∈ p) : ofAddress v 96 = .ok p := congrArg Except.ok (mem_iff_of.1 hv)

/-- The bits of a network that its length does not cover are not looked at. -/
theorem of_first {net : IPv6.Network} (hlength : net.length = 96) : of net.first = of net.address := by
  have hlt := net.address.toNat_lt
  have hsize : 2 ^ (128 - net.length) = 0x100000000 := by rw [hlength]
  have hhigh : (of net.first).high.toNat = (of net.address).high.toNat := by
    rw [toNat_high_of, toNat_high_of, IPv6.Network.first, hsize, IPv6.toNat_ofNat]
    omega
  exact congrArg Prefix.mk (BitVec.eq_of_toNat_eq hhigh)

theorem ofNetwork_eq {net : IPv6.Network} (hlength : net.length = 96) (hmem : net.address ∈ p) :
    ofNetwork net = .ok p := by
  rw [ofNetwork, hlength]
  refine ofAddress_eq (mem_iff_of.2 ?_)
  rw [of_first hlength, mem_iff_of.1 hmem]

theorem embedUnder_eq (hv : v ∈ p) (a : IPv4) : embedUnder v 96 a = .ok (p.embed a) := by
  rw [embedUnder, ofAddress_eq hv]
  rfl

theorem extractUnder_eq (hv : v ∈ p) (w : IPv6) : extractUnder v 96 w = .ok (p.extract w) := by
  rw [extractUnder, ofAddress_eq hv]
  rfl

/-- What every other length is refused with. -/
theorem ofAddress_eq_error {n : Nat} (hn : n ≠ 96) (v : IPv6) :
    ofAddress v n = .error (.prefixLength (UInt8.ofNat (min n 255))) := by
  have hcheck : checkLength n = .error (.prefixLength (UInt8.ofNat (min n 255))) := if_neg hn
  rw [ofAddress, hcheck]
  rfl

/-! ## The correspondence -/

theorem embed_injective (p : Prefix) : Function.Injective p.embed := fun a b h => by
  have hextract := congrArg p.extract h
  rwa [extract_embed, extract_embed] at hextract

theorem range_embed (p : Prefix) : Set.range p.embed = {v | v ∈ p} := by
  ext v
  constructor
  · rintro ⟨a, rfl⟩
    exact p.embed_mem a
  · intro hv
    exact ⟨p.extract v, (p.embed_extract_iff v).2 hv⟩

/-- The IPv4 addresses correspond to the members of a prefix. A prefix is made from any of its members, alone or as the
address of a network, and what stands for what under an address is what does under the prefix that it makes. Lengths
other than 96 are refused throughout. -/
theorem maps_onto_members :
    (∀ p : Prefix, Function.Injective p.embed ∧ Set.range p.embed = {v | v ∈ p} ∧ (∀ a, p.extract (p.embed a) = a) ∧
      ∀ v, p.embed (p.extract v) = v ↔ v ∈ p) ∧
    (∀ base : IPv6, ∃ p : Prefix, ofAddress base 96 = .ok p ∧
      (∀ net : IPv6.Network, net.length = 96 → net.address = base → ofNetwork net = .ok p) ∧
      (∀ v : IPv6, v ∈ p ↔ v.octets.take 12 = base.octets.take 12) ∧
      (∀ a, embedUnder base 96 a = .ok (p.embed a) ∧ (p.embed a).octets = base.octets.take 12 ++ a.octets) ∧
      ∀ v, extractUnder base 96 v = .ok (p.extract v) ∧ (p.extract v).octets = v.octets.drop 12) ∧
    ∀ n, n ≠ 96 → ∃ reported : UInt8, reported.toNat = min n 255 ∧ ∀ base : IPv6,
      ofAddress base n = .error (.prefixLength reported) ∧
      (∀ a, embedUnder base n a = .error (.prefixLength reported)) ∧
      (∀ v, extractUnder base n v = .error (.prefixLength reported)) ∧
      ∀ net : IPv6.Network, net.length = n → ofNetwork net = .error (.prefixLength reported) := by
  refine ⟨fun p => ⟨p.embed_injective, p.range_embed, p.extract_embed, p.embed_extract_iff⟩, fun base => ?_,
    fun n hn => ?_⟩
  · have hbase : base ∈ of base := mem_iff_of.2 rfl
    refine ⟨of base, ofAddress_eq hbase, fun net hlength haddress => ?_, fun v => mem_iff_octets hbase,
      fun a => ⟨embedUnder_eq hbase a, octets_embed hbase a⟩, fun v => ⟨extractUnder_eq hbase v, octets_extract _ v⟩⟩
    rw [← haddress] at hbase ⊢
    exact ofNetwork_eq hlength hbase
  · have hlt : min n 255 < 256 := Nat.lt_succ_of_le (Nat.min_le_right n 255)
    refine ⟨UInt8.ofNat (min n 255), UInt8.toNat_ofNat_of_lt' hlt, fun base => ⟨ofAddress_eq_error hn base,
      fun a => ?_, fun v => ?_, fun net hlength => ?_⟩⟩
    · rw [embedUnder, ofAddress_eq_error hn]
      rfl
    · rw [extractUnder, ofAddress_eq_error hn]
      rfl
    · rw [ofNetwork, hlength, ofAddress_eq_error hn]

/-- The prefix of a network with bits that its length does not cover, and a length of 64 bits of which the last 8 are
those of 96. -/
theorem maps_onto_members_samples :
    (∃ p : Prefix, ofNetwork ⟨IPv6.ofNat 0x20010db8000000000000000000000007, 96, Nat.le_add_right 96 32⟩ = .ok p ∧
      embedUnder (IPv6.ofNat 0x20010db8000000000000000000000007) 96 (IPv4.ofNat 0xc0000201) =
        .ok (p.embed (IPv4.ofNat 0xc0000201))) ∧
    ∃ reported : UInt8, reported.toNat = 255 ∧
      extractUnder (IPv6.ofNat 0x20010db8000000000000000000000007) 0x8000000000000060 (IPv6.ofNat 1)
        = .error (.prefixLength reported) := by
  obtain ⟨-, hmade, hrefused⟩ := maps_onto_members
  obtain ⟨p, -, hnetwork, -, hembed, -⟩ := hmade (IPv6.ofNat 0x20010db8000000000000000000000007)
  obtain ⟨reported, hreported, hfails⟩ := hrefused 0x8000000000000060 (by decide)
  obtain ⟨-, -, hextract, -⟩ := hfails (IPv6.ofNat 0x20010db8000000000000000000000007)
  exact ⟨⟨p, hnetwork _ rfl rfl, (hembed _).1⟩, reported, hreported, hextract _⟩

end Prefix

end Nat64
