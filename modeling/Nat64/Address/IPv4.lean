import Nat64.Bytes

/-!
# IPv4 addresses

An address is a 32-bit word, ordered as a number. `octets` is its form in a packet and `toString` its dotted form.

* `IPv4.toNat_ofNat`, `IPv4.ofNat_toNat`: addresses are the numbers below `2 ^ 32`.
* `IPv4.ofOctets_octets`: the packet form determines the address.
-/

namespace Nat64

/-- An IPv4 address. -/
structure IPv4 where
  /-- The address as a word, first octet highest. -/
  bits : BitVec 32
deriving DecidableEq, Hashable, Repr

namespace IPv4

-- Powers of natural numbers mean the same here whatever else is in scope.
attribute [local instance (2000)] instPowNat

/-- The address as a number. -/
def toNat (a : IPv4) : Nat := a.bits.toNat

/-- The address with the given number, modulo `2 ^ 32`. -/
def ofNat (n : Nat) : IPv4 := ⟨BitVec.ofNat 32 n⟩

instance : LE IPv4 := ⟨fun a b => a.toNat ≤ b.toNat⟩

instance : LT IPv4 := ⟨fun a b => a.toNat < b.toNat⟩

instance (a b : IPv4) : Decidable (a ≤ b) := inferInstanceAs (Decidable (a.toNat ≤ b.toNat))

instance (a b : IPv4) : Decidable (a < b) := inferInstanceAs (Decidable (a.toNat < b.toNat))

theorem le_def {a b : IPv4} : a ≤ b ↔ a.toNat ≤ b.toNat := Iff.rfl

theorem lt_def {a b : IPv4} : a < b ↔ a.toNat < b.toNat := Iff.rfl

theorem toNat_lt (a : IPv4) : a.toNat < 2 ^ (32 : Nat) := a.bits.isLt

theorem toNat_ofNat (n : Nat) : (ofNat n).toNat = n % 2 ^ (32 : Nat) := BitVec.toNat_ofNat ..

@[simp] theorem ofNat_toNat (a : IPv4) : ofNat a.toNat = a := by
  simp [ofNat, toNat]

theorem toNat_inj {a b : IPv4} : a.toNat = b.toNat ↔ a = b :=
  ⟨fun h => by rw [← ofNat_toNat a, h, ofNat_toNat], fun h => h ▸ rfl⟩

/-! ## Octets -/

/-- The four octets of the address. -/
def octets (a : IPv4) : Bytes := Bytes.ofNat 4 a.toNat

/-- The address with the given octets. -/
def ofOctets (data : Bytes) : IPv4 := ofNat (Bytes.toNat data)

@[simp] theorem length_octets (a : IPv4) : a.octets.length = 4 := Bytes.length_ofNat ..

@[simp] theorem ofOctets_octets (a : IPv4) : ofOctets a.octets = a := by
  have := a.toNat_lt
  rw [ofOctets, octets, Bytes.toNat_ofNat, Nat.mod_eq_of_lt (by omega), ofNat_toNat]

/-- The address at an offset of a packet. -/
def read (data : Bytes) (offset : Nat) : IPv4 := ofOctets (Bytes.slice data offset 4)

instance : ToString IPv4 where
  toString a := ".".intercalate (a.octets.map fun b => toString b.toNat)

end IPv4

end Nat64
