import Nat64.Proofs.Pool

/-!
# Pools in ascending order

* `toList`: the members, lowest first (`mem_toList`, `pairwise_toList`), as many as the size says (`length_toList`).
* `toList_of_popLowest?`: taking the lowest address takes the head of this list.
-/

namespace Nat64.Pool

-- Sums of natural numbers mean the same here whatever else is in scope.
attribute [local instance (2000)] Zero.ofOfNat0

variable {a : IPv4} {p q : Pool} {r : Range} {l : List Range}

/-! ## Ranges -/

namespace Range

/-- The addresses of a range that has any, lowest first. -/
def toList (r : Range) : List IPv4 := (List.range' r.first.toNat r.size).map IPv4.ofNat

theorem length_toList (r : Range) : r.toList.length = r.size := by rw [toList, List.length_map, List.length_range']

/-- The numbers that are listed are those of addresses. -/
theorem toNat_ofNat_of_mem (hr : r.Nonempty) {n : Nat} (hn : n ∈ List.range' r.first.toNat r.size) :
    (IPv4.ofNat n).toNat = n := by
  have hlt := r.last.toNat_lt
  rw [nonempty_def] at hr
  rw [List.mem_range'_1, size] at hn
  rw [IPv4.toNat_ofNat, Nat.mod_eq_of_lt (by omega)]

theorem mem_toList (hr : r.Nonempty) : a ∈ r.toList ↔ a ∈ r := by
  have hbounds : a.toNat ∈ List.range' r.first.toNat r.size ↔ a ∈ r := by
    rw [nonempty_def] at hr
    rw [List.mem_range'_1, mem_def, size]
    omega
  rw [toList, List.mem_map, ← hbounds]
  constructor
  · rintro ⟨n, hn, rfl⟩
    rwa [toNat_ofNat_of_mem hr hn]
  · intro ha
    exact ⟨a.toNat, ha, a.ofNat_toNat⟩

theorem pairwise_toList (hr : r.Nonempty) : r.toList.Pairwise (· < ·) := by
  refine List.pairwise_map.2 ((List.pairwise_lt_range').imp_of_mem fun {m n} hm hn hlt => ?_)
  rwa [IPv4.lt_def, toNat_ofNat_of_mem hr hm, toNat_ofNat_of_mem hr hn]

/-- The first address, and what is left of the range without it. -/
theorem toList_eq_cons (hr : r.Nonempty) :
    r.toList = r.first :: if r.first < r.last then toList ⟨r.first.succ, r.last⟩ else [] := by
  rw [nonempty_def] at hr
  rw [toList, size, List.range'_succ, List.map_cons, IPv4.ofNat_toNat]
  split
  · rename_i hlt
    rw [toList, size, IPv4.toNat_succ hlt]
    rw [IPv4.lt_def] at hlt
    rw [show r.last.toNat - (r.first.toNat + 1) + 1 = r.last.toNat - r.first.toNat by omega]
  · rename_i hlt
    rw [IPv4.lt_def] at hlt
    rw [show r.last.toNat - r.first.toNat = 0 by omega]
    rfl

end Range

/-! ## Pools -/

/-- The members, lowest first. -/
def toList (p : Pool) : List IPv4 := p.ranges.flatMap Range.toList

theorem toList_cons : toList ⟨r :: l⟩ = r.toList ++ toList ⟨l⟩ := List.flatMap_cons

theorem length_toList (p : Pool) : p.toList.length = p.size := by
  obtain ⟨l⟩ := p
  induction l with
  | nil => rfl
  | cons r l ih => rw [toList_cons, List.length_append, Range.length_toList, ih, size_cons]

theorem mem_toList (hp : p.Canonical) : a ∈ p.toList ↔ a ∈ p := by
  rw [toList, List.mem_flatMap, mem_def]
  refine exists_congr fun r => and_congr_right fun hr => Range.mem_toList (hp.1 r hr)

theorem pairwise_toList (hp : p.Canonical) : p.toList.Pairwise (· < ·) := by
  refine List.pairwise_flatMap.2 ⟨fun r hr => Range.pairwise_toList (hp.1 r hr), ?_⟩
  refine hp.2.imp_of_mem fun {r s} hr hs hrs a ha b hb => ?_
  rw [Range.mem_toList (hp.1 r hr), Range.mem_def] at ha
  rw [Range.mem_toList (hp.1 s hs), Range.mem_def] at hb
  rw [Range.before_def] at hrs
  rw [IPv4.lt_def]
  omega

theorem toList_of_popLowest?_eq_none (h : p.popLowest? = none) : p.toList = [] := by
  obtain ⟨_ | ⟨r, l⟩⟩ := p
  · rfl
  · cases h

/-- The lowest address is the head, and the pool without it has the tail. -/
theorem toList_of_popLowest? (hp : p.Canonical) (h : p.popLowest? = some (a, q)) : p.toList = a :: q.toList := by
  obtain ⟨_ | ⟨r, l⟩⟩ := p
  · cases h
  obtain ⟨hr, -, -⟩ := canonical_cons.1 hp
  cases h
  rw [toList_cons, Range.toList_eq_cons hr, List.cons_append]
  split
  · rw [toList_cons]
  · rw [List.nil_append]

end Nat64.Pool
