import Nat64.Address.Network
import Nat64.Fault

/-!
# IPv4 addresses inside IPv6

A prefix of 96 bits leaves room for one IPv4 address in the last 32. `Prefix.embed` puts an address there and
`Prefix.extract` takes it out.

* `Prefix.extract_embed`: nothing is lost.
* `Prefix.embed_extract_iff`: the embedded addresses are exactly those the prefix contains.
-/

namespace Nat64

/-- The high 96 bits of the IPv6 addresses that stand for IPv4 ones. -/
structure Prefix where
  high : BitVec 96
deriving DecidableEq, Repr

namespace Prefix

/-- The only supported length. -/
def length : Nat := 96

/-- The well-known prefix `64:ff9b::/96`. -/
def wellKnown : Prefix := ⟨BitVec.ofNat 96 (0x0064ff9b <<< 64)⟩

instance : Inhabited Prefix := ⟨wellKnown⟩

/-- Refuses every length but the supported one; a length of more than eight bits is reported as the largest. -/
def checkLength (length : Nat) : Except Fault Unit :=
  if length = Prefix.length then .ok () else .error (.prefixLength (UInt8.ofNat (min length 255)))

/-- The prefix of the given length that an address starts with; the bits behind it are ignored. -/
def ofAddress (a : IPv6) (length : Nat) : Except Fault Prefix := do
  checkLength length
  return ⟨a.bits.extractLsb' 32 96⟩

/-- The prefix that a network describes. -/
def ofNetwork (net : IPv6.Network) : Except Fault Prefix := ofAddress net.first net.length

/-- The address that stands for an IPv4 address. -/
def embed (p : Prefix) (a : IPv4) : IPv6 := ⟨p.high ++ a.bits⟩

/-- The IPv4 address that an address stands for, whatever its high bits are. -/
def extract (_ : Prefix) (a : IPv6) : IPv4 := ⟨a.bits.extractLsb' 0 32⟩

instance : Membership IPv6 Prefix := ⟨fun p a => a.bits.extractLsb' 32 96 = p.high⟩

instance (a : IPv6) (p : Prefix) : Decidable (a ∈ p) :=
  inferInstanceAs (Decidable (a.bits.extractLsb' 32 96 = p.high))

/-- The address of the prefix itself. -/
def address (p : Prefix) : IPv6 := p.embed (IPv4.ofNat 0)

/-- The prefix as a network. -/
def network (p : Prefix) : IPv6.Network := { address := p.address, length := 96 }

instance : ToString Prefix where
  toString p := toString p.network

theorem mem_def {a : IPv6} {p : Prefix} : a ∈ p ↔ a.bits.extractLsb' 32 96 = p.high := Iff.rfl

@[simp] theorem extract_embed (p : Prefix) (a : IPv4) : p.extract (p.embed a) = a :=
  congrArg IPv4.mk BitVec.extractLsb'_append_eq_right

theorem embed_mem (p : Prefix) (a : IPv4) : p.embed a ∈ p :=
  BitVec.extractLsb'_append_eq_left

/-- The embedded addresses are exactly those the prefix contains. -/
theorem embed_extract_iff (p : Prefix) (a : IPv6) : p.embed (p.extract a) = a ↔ a ∈ p := by
  constructor
  · intro h
    rw [← h]
    exact p.embed_mem _
  · intro h
    obtain ⟨high⟩ := p
    obtain ⟨bits⟩ := a
    have h : bits.extractLsb' 32 96 = high := h
    subst h
    exact congrArg IPv6.mk BitVec.extractLsb'_append_extractLsb'

/-- The address that stands for an IPv4 address under the first `length` bits of `base`. -/
def embedUnder (base : IPv6) (length : Nat) (a : IPv4) : Except Fault IPv6 := do
  let p ← ofAddress base length
  return p.embed a

/-- The IPv4 address that an address stands for under the first `length` bits of `base`. -/
def extractUnder (base : IPv6) (length : Nat) (a : IPv6) : Except Fault IPv4 := do
  let p ← ofAddress base length
  return p.extract a

end Prefix

end Nat64
