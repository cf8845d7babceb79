import Nat64.Address.IPv4

/-!
# IPv6 addresses

An address is a 128-bit word. Its text has eight hexadecimal groups; the leftmost longest run of at least two zero
groups is elided, and an address that stands for an IPv4 one (`::ffff:0:0/96`) ends in dotted form.

* `IPv6.ofOctets_octets`: the packet form determines the address.
-/

namespace Nat64

/-- An IPv6 address. -/
structure IPv6 where
  /-- The address as a word, first octet highest. -/
  bits : BitVec 128
deriving DecidableEq, Hashable, Repr

namespace IPv6

-- Powers of natural numbers mean the same here whatever else is in scope.
attribute [local instance (2000)] instPowNat

/-- The address as a number. -/
def toNat (a : IPv6) : Nat := a.bits.toNat

/-- The address with the given number, modulo `2 ^ 128`. -/
def ofNat (n : Nat) : IPv6 := ⟨BitVec.ofNat 128 n⟩

theorem toNat_lt (a : IPv6) : a.toNat < 2 ^ (128 : Nat) := a.bits.isLt

theorem toNat_ofNat (n : Nat) : (ofNat n).toNat = n % 2 ^ (128 : Nat) := BitVec.toNat_ofNat ..

@[simp] theorem ofNat_toNat (a : IPv6) : ofNat a.toNat = a := by
  simp [ofNat, toNat]

/-! ## Octets -/

/-- The sixteen octets of the address. -/
def octets (a : IPv6) : Bytes := Bytes.ofNat 16 a.toNat

/-- The address with the given octets. -/
def ofOctets (data : Bytes) : IPv6 := ofNat (Bytes.toNat data)

@[simp] theorem length_octets (a : IPv6) : a.octets.length = 16 := Bytes.length_ofNat ..

@[simp] theorem ofOctets_octets (a : IPv6) : ofOctets a.octets = a := by
  have := a.toNat_lt
  rw [ofOctets, octets, Bytes.toNat_ofNat, Nat.mod_eq_of_lt (by omega), ofNat_toNat]

/-- The address at an offset of a packet. -/
def read (data : Bytes) (offset : Nat) : IPv6 := ofOctets (Bytes.slice data offset 16)

/-- The address `::`. -/
def IsUnspecified (a : IPv6) : Prop := a.toNat = 0

/-- An address of a group of hosts: its first octet is `ff`. -/
def IsMulticast (a : IPv6) : Prop := a.toNat >>> 120 = 0xff

instance (a : IPv6) : Decidable a.IsUnspecified := inferInstanceAs (Decidable (a.toNat = 0))

instance (a : IPv6) : Decidable a.IsMulticast := inferInstanceAs (Decidable (a.toNat >>> 120 = 0xff))

/-! ## Text -/

/-- The address whose eight 16-bit groups are given, first group highest. -/
def ofGroups (groups : List Nat) : IPv6 := ofNat (groups.foldl (fun n g => 0x10000 * n + g) 0)

/-- The eight 16-bit groups of the address, first group highest. -/
def groups (a : IPv6) : List Nat := [7, 6, 5, 4, 3, 2, 1, 0].map fun i => a.toNat >>> (16 * i) % 0x10000

/-- Where the leftmost longest run of zeros starts, and its length. -/
def longestZeroRun : List Nat → Nat × Nat
  | [] => (0, 0)
  | g :: rest =>
    let (start, length) := longestZeroRun rest
    let here := ((g :: rest).takeWhile (· == 0)).length
    if 0 < here ∧ length ≤ here then (0, here) else (start + 1, length)

/-- Groups in hexadecimal without leading zeros, between colons. -/
def groupsText (groups : List Nat) : String :=
  ":".intercalate (groups.map fun g => String.ofList (Nat.toDigits 16 g))

instance : ToString IPv6 where
  toString a :=
    let (start, length) := longestZeroRun a.groups
    if a.toNat >>> 32 = 0xffff then "::ffff:" ++ toString (IPv4.ofNat a.toNat)
    else if 2 ≤ length then
      groupsText (a.groups.take start) ++ "::" ++ groupsText (a.groups.drop (start + length))
    else groupsText a.groups

end IPv6

end Nat64
