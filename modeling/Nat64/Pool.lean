import Nat64.Address.IPv4

/-!
# Sets of IPv4 addresses

A pool is a set of addresses, kept as ranges in ascending order that neither meet nor touch. Equal sets have equal
ranges, and no operation depends on how many addresses a range has.

* `a ∈ p`: the view through which the operations are described.
* `Pool.Canonical`: the form that the ranges keep.
-/

namespace Nat64

namespace IPv4

/-- The next address; the last one has no next. -/
def succ (a : IPv4) : IPv4 := ofNat (a.toNat + 1)

/-- The address before; the first one has none. -/
def pred (a : IPv4) : IPv4 := ofNat (a.toNat - 1)

end IPv4

/-- All addresses between two, both included. -/
structure Pool.Range where
  first : IPv4
  last : IPv4
deriving DecidableEq, Repr

namespace Pool.Range

instance : Membership IPv4 Range := ⟨fun r a => r.first ≤ a ∧ a ≤ r.last⟩

instance (a : IPv4) (r : Range) : Decidable (a ∈ r) := inferInstanceAs (Decidable (r.first ≤ a ∧ a ≤ r.last))

/-- The number of addresses of a range that has any. -/
def size (r : Range) : Nat := r.last.toNat - r.first.toNat + 1

/-- The range has an address. -/
def Nonempty (r : Range) : Prop := r.first ≤ r.last

instance (r : Range) : Decidable r.Nonempty := inferInstanceAs (Decidable (r.first ≤ r.last))

/-- The first range ends before the second starts, with an address between them that belongs to neither. -/
def Before (r s : Range) : Prop := r.last.toNat + 1 < s.first.toNat

instance (r s : Range) : Decidable (r.Before s) := inferInstanceAs (Decidable (r.last.toNat + 1 < s.first.toNat))

/-- Two ranges have an address in common. -/
def Meets (r s : Range) : Prop := r.first ≤ s.last ∧ s.first ≤ r.last

instance (r s : Range) : Decidable (r.Meets s) :=
  inferInstanceAs (Decidable (r.first ≤ s.last ∧ s.first ≤ r.last))

/-- The least range that covers both. -/
def hull (r s : Range) : Range where
  first := if r.first ≤ s.first then r.first else s.first
  last := if r.last ≤ s.last then s.last else r.last

/-- What is left of a range without the addresses of another that it meets. -/
def without (r s : Range) : List Range :=
  (if r.first < s.first then [⟨r.first, s.first.pred⟩] else [])
    ++ (if s.last < r.last then [⟨s.last.succ, r.last⟩] else [])

/-- What is left of a range without the addresses of another. -/
def minus (r s : Range) : List Range := if r.Meets s then r.without s else [r]

/-- The addresses that two ranges which meet have in common. -/
def overlap (r s : Range) : Range where
  first := if r.first ≤ s.first then s.first else r.first
  last := if r.last ≤ s.last then r.last else s.last

/-- The number of addresses that two ranges have in common. -/
def common (r s : Range) : Nat := if r.Meets s then (r.overlap s).size else 0

instance : ToString Range where
  toString r := if r.first = r.last then toString r.first else s!"{r.first}-{r.last}"

end Pool.Range

/-- A set of IPv4 addresses. -/
structure Pool where
  /-- Its ranges, in ascending order. -/
  ranges : List Pool.Range := []
deriving DecidableEq, Repr

namespace Pool

-- Sums of natural numbers mean the same here whatever else is in scope.
attribute [local instance (2000)] Zero.ofOfNat0

instance : EmptyCollection Pool := ⟨{}⟩

instance : Membership IPv4 Pool := ⟨fun p a => ∃ r ∈ p.ranges, a ∈ r⟩

instance (a : IPv4) (p : Pool) : Decidable (a ∈ p) := inferInstanceAs (Decidable (∃ r ∈ p.ranges, a ∈ r))

/-- Every range has an address, and between any two of them lies an address that belongs to neither. -/
def Canonical (p : Pool) : Prop := (∀ r ∈ p.ranges, r.Nonempty) ∧ p.ranges.Pairwise Range.Before

/-- The number of addresses. -/
def size (p : Pool) : Nat := (p.ranges.map Range.size).sum

/-- Adds a range to ranges in ascending order and joins what meets or touches it. -/
def join (r : Range) : List Range → List Range
  | [] => [r]
  | s :: rest =>
    if s.Before r then s :: join r rest
    else if r.Before s then r :: s :: rest
    else join (r.hull s) rest

/-- Adds all addresses from `first` to `last`. -/
def insertRange (p : Pool) (first last : IPv4) : Pool :=
  if first ≤ last then ⟨join ⟨first, last⟩ p.ranges⟩ else p

/-- Adds one address. -/
def insert (p : Pool) (a : IPv4) : Pool := p.insertRange a a

/-- Removes all addresses from `first` to `last`. -/
def eraseRange (p : Pool) (first last : IPv4) : Pool :=
  if first ≤ last then ⟨p.ranges.flatMap (·.minus ⟨first, last⟩)⟩ else p

/-- The number of addresses from `first` to `last` that belong to the pool. -/
def countRange (p : Pool) (first last : IPv4) : Nat :=
  if first ≤ last then (p.ranges.map (·.common ⟨first, last⟩)).sum else 0

/-- Removes one address. -/
def erase (p : Pool) (a : IPv4) : Pool := p.eraseRange a a

/-- The lowest address, and the pool without it. -/
def popLowest? (p : Pool) : Option (IPv4 × Pool) :=
  match p.ranges with
  | [] => none
  | r :: rest => some (r.first, ⟨if r.first < r.last then ⟨r.first.succ, r.last⟩ :: rest else rest⟩)

/-- Whether an address from `first` to `last` belongs to the pool. -/
def meetsRange (p : Pool) (first last : IPv4) : Bool :=
  first ≤ last ∧ p.ranges.any fun r => r.Meets ⟨first, last⟩

instance : ToString Pool where
  toString p := ", ".intercalate (p.ranges.map toString)

end Pool

end Nat64
