import Mathlib.Data.Set.Card
import Mathlib.Order.Interval.Finset.Nat
import Nat64.Pool

/-!
# Pools as sets of addresses

Every operation on a pool is described by what it does to the members, and every operation keeps the canonical form.

* adding and removing: `mem_insertRange`, `mem_eraseRange`, `canonical_insertRange`, `canonical_eraseRange`;
* the lowest address: `popLowest?_eq_none`, `popLowest?_eq_some`;
* the canonical form is the only one that a set has: `eq_of_mem_iff`;
* the number of members is `size` (`size_eq_ncard`).
-/

namespace Nat64

namespace IPv4

theorem toNat_ne {a b : IPv4} : a.toNat ≠ b.toNat ↔ a ≠ b := not_congr toNat_inj

theorem toNat_succ {a b : IPv4} (h : a.toNat < b.toNat) : a.succ.toNat = a.toNat + 1 := by
  have := b.toNat_lt
  rw [succ, toNat_ofNat, Nat.mod_eq_of_lt (by omega)]

theorem toNat_pred {a b : IPv4} (h : b.toNat < a.toNat) : a.pred.toNat = a.toNat - 1 := by
  have := a.toNat_lt
  rw [pred, toNat_ofNat, Nat.mod_eq_of_lt (by omega)]

end IPv4

namespace Pool

/-! ## Ranges -/

namespace Range

variable {a : IPv4} {r s : Range}

theorem mem_def : a ∈ r ↔ r.first.toNat ≤ a.toNat ∧ a.toNat ≤ r.last.toNat := Iff.rfl

theorem nonempty_def : r.Nonempty ↔ r.first.toNat ≤ r.last.toNat := Iff.rfl

theorem before_def : r.Before s ↔ r.last.toNat + 1 < s.first.toNat := Iff.rfl

theorem meets_def : r.Meets s ↔ r.first.toNat ≤ s.last.toNat ∧ s.first.toNat ≤ r.last.toNat := Iff.rfl

theorem eq_of_toNat (hfirst : r.first.toNat = s.first.toNat) (hlast : r.last.toNat = s.last.toNat) : r = s := by
  cases r
  cases s
  exact congr (congrArg mk (IPv4.toNat_inj.1 hfirst)) (IPv4.toNat_inj.1 hlast)

theorem mem_singleton {b : IPv4} : a ∈ (⟨b, b⟩ : Range) ↔ a = b := by
  simp only [mem_def, ← IPv4.toNat_inj]
  omega

theorem toNat_first_hull : (r.hull s).first.toNat = min r.first.toNat s.first.toNat := by
  simp only [hull, IPv4.le_def]
  split <;> omega

theorem toNat_last_hull : (r.hull s).last.toNat = max r.last.toNat s.last.toNat := by
  simp only [hull, IPv4.le_def]
  split <;> omega

/-- Ranges that meet or touch leave no gap in their hull. -/
theorem mem_hull (hsr : ¬ s.Before r) (hrs : ¬ r.Before s) : a ∈ r.hull s ↔ a ∈ r ∨ a ∈ s := by
  simp only [mem_def, before_def, toNat_first_hull, toNat_last_hull] at hsr hrs ⊢
  omega

theorem nonempty_hull (hr : r.Nonempty) : (r.hull s).Nonempty := by
  simp only [nonempty_def, toNat_first_hull, toNat_last_hull] at hr ⊢
  omega

theorem toNat_first_overlap : (r.overlap s).first.toNat = max r.first.toNat s.first.toNat := by
  simp only [overlap, IPv4.le_def]
  split <;> omega

theorem toNat_last_overlap : (r.overlap s).last.toNat = min r.last.toNat s.last.toNat := by
  simp only [overlap, IPv4.le_def]
  split <;> omega

theorem mem_overlap : a ∈ r.overlap s ↔ a ∈ r ∧ a ∈ s := by
  simp only [mem_def, toNat_first_overlap, toNat_last_overlap]
  omega

theorem nonempty_overlap (hr : r.Nonempty) (hs : s.Nonempty) (h : r.Meets s) : (r.overlap s).Nonempty := by
  simp only [nonempty_def, meets_def, toNat_first_overlap, toNat_last_overlap] at hr hs h ⊢
  omega

theorem Meets.symm (h : r.Meets s) : s.Meets r := ⟨h.2, h.1⟩

/-- Ranges meet if they have an address in common. -/
theorem meets_iff (hr : r.Nonempty) (hs : s.Nonempty) : r.Meets s ↔ ∃ a, a ∈ r ∧ a ∈ s := by
  constructor
  · intro h
    exact ⟨(r.overlap s).first, mem_overlap.1 ⟨Nat.le_refl _, nonempty_overlap hr hs h⟩⟩
  · rintro ⟨a, har, has⟩
    rw [mem_def] at har has
    rw [meets_def]
    omega

/-- What is left of a range are its addresses that the other does not have. -/
theorem mem_minus : (∃ q ∈ r.minus s, a ∈ q) ↔ a ∈ r ∧ a ∉ s := by
  have hlow : r.first.toNat < s.first.toNat → s.first.pred.toNat = s.first.toNat - 1 := IPv4.toNat_pred
  have hhigh : s.last.toNat < r.last.toNat → s.last.succ.toNat = s.last.toNat + 1 := IPv4.toNat_succ
  simp only [minus, without, IPv4.lt_def, mem_def, meets_def]
  split
  · split <;> split <;> simp <;> omega
  · simp
    omega

/-- What is left of a range lies inside it. -/
theorem minus_bounds (hr : r.Nonempty) {q : Range} (hq : q ∈ r.minus s) :
    q.Nonempty ∧ r.first.toNat ≤ q.first.toNat ∧ q.last.toNat ≤ r.last.toNat := by
  have hlow : r.first.toNat < s.first.toNat → s.first.pred.toNat = s.first.toNat - 1 := IPv4.toNat_pred
  have hhigh : s.last.toNat < r.last.toNat → s.last.succ.toNat = s.last.toNat + 1 := IPv4.toNat_succ
  simp only [minus, without, IPv4.lt_def, meets_def, nonempty_def] at hr hq ⊢
  split at hq
  · rcases List.mem_append.1 hq with hq | hq <;> split at hq <;> simp at hq <;> subst hq <;> simp only <;> omega
  · simp at hq
    subst hq
    omega

/-- What is left on both sides of a range that is not empty does not touch. -/
theorem pairwise_minus (hs : s.Nonempty) : (r.minus s).Pairwise Before := by
  have hlow : r.first.toNat < s.first.toNat → s.first.pred.toNat = s.first.toNat - 1 := IPv4.toNat_pred
  have hhigh : s.last.toNat < r.last.toNat → s.last.succ.toNat = s.last.toNat + 1 := IPv4.toNat_succ
  simp only [minus, without, IPv4.lt_def, nonempty_def] at hs ⊢
  split
  · split <;> split <;> simp [before_def]
    omega
  · simp

end Range

/-! ## Canonical ranges -/

variable {a : IPv4} {p : Pool} {r : Range} {l : List Range}

theorem mem_def : a ∈ p ↔ ∃ r ∈ p.ranges, a ∈ r := Iff.rfl

@[simp] theorem not_mem_nil : a ∉ (⟨[]⟩ : Pool) := by simp [mem_def]

@[simp] theorem mem_cons : a ∈ (⟨r :: l⟩ : Pool) ↔ a ∈ r ∨ a ∈ (⟨l⟩ : Pool) := by simp [mem_def]

theorem canonical_empty : Canonical ∅ := ⟨by simp [EmptyCollection.emptyCollection], List.Pairwise.nil⟩

theorem canonical_cons :
    Canonical ⟨r :: l⟩ ↔ r.Nonempty ∧ (∀ s ∈ l, r.Before s) ∧ Canonical ⟨l⟩ := by
  simp only [Canonical, List.forall_mem_cons, List.pairwise_cons]
  constructor
  · rintro ⟨⟨hr, hl⟩, hb, hp⟩
    exact ⟨hr, hb, hl, hp⟩
  · rintro ⟨hr, hb, hl, hp⟩
    exact ⟨⟨hr, hl⟩, hb, hp⟩

/-- A range starts with a member. -/
theorem first_mem (h : Canonical ⟨r :: l⟩) : r.first ∈ (⟨r :: l⟩ : Pool) :=
  mem_cons.2 (Or.inl ⟨Nat.le_refl _, (canonical_cons.1 h).1⟩)

/-- Members of later ranges lie above the first range. -/
theorem lt_of_mem_tail (h : Canonical ⟨r :: l⟩) (ha : a ∈ (⟨l⟩ : Pool)) : r.last.toNat + 1 < a.toNat := by
  obtain ⟨-, hb, -⟩ := canonical_cons.1 h
  obtain ⟨s, hs, has⟩ := ha
  have := hb s hs
  rw [Range.before_def] at this
  rw [Range.mem_def] at has
  omega

/-! ## Adding -/

theorem mem_join (hr : r.Nonempty) (hl : Canonical ⟨l⟩) :
    a ∈ (⟨join r l⟩ : Pool) ↔ a ∈ r ∨ a ∈ (⟨l⟩ : Pool) := by
  induction l generalizing r with
  | nil => simp [join]
  | cons s rest ih =>
    obtain ⟨-, -, hrest⟩ := canonical_cons.1 hl
    unfold join
    split
    · rw [mem_cons, ih hr hrest, mem_cons, or_left_comm]
    split
    · rw [mem_cons]
    · rename_i hsr hrs
      rw [ih (Range.nonempty_hull hr) hrest, Range.mem_hull hsr hrs, mem_cons, or_assoc]

/-- Joining reaches no lower than what is joined. -/
theorem join_above {n : Nat} (hr : n < r.first.toNat) (hl : ∀ s ∈ l, n < s.first.toNat) :
    ∀ q ∈ join r l, n < q.first.toNat := by
  induction l generalizing r with
  | nil => simpa [join] using hr
  | cons s rest ih =>
    have hs := hl s List.mem_cons_self
    have hrest := fun q hq => hl q (List.mem_cons_of_mem s hq)
    unfold join
    split
    · exact List.forall_mem_cons.2 ⟨hs, ih hr hrest⟩
    split
    · exact List.forall_mem_cons.2 ⟨hr, hl⟩
    · refine ih ?_ hrest
      rw [Range.toNat_first_hull]
      omega

theorem canonical_join (hr : r.Nonempty) (hl : Canonical ⟨l⟩) : Canonical ⟨join r l⟩ := by
  induction l generalizing r with
  | nil => simpa [join, Canonical] using hr
  | cons s rest ih =>
    obtain ⟨hs, hb, hrest⟩ := canonical_cons.1 hl
    unfold join
    split
    · rename_i hsr
      exact canonical_cons.2 ⟨hs, join_above hsr hb, ih hr hrest⟩
    split
    · rename_i hrs
      refine canonical_cons.2 ⟨hr, List.forall_mem_cons.2 ⟨hrs, fun q hq => ?_⟩, hl⟩
      have hsq := hb q hq
      simp only [Range.before_def, Range.nonempty_def] at hrs hsq hs ⊢
      omega
    · exact ih (Range.nonempty_hull hr) hrest

theorem mem_insertRange (hp : p.Canonical) {first last : IPv4} :
    a ∈ p.insertRange first last ↔ a ∈ p ∨ (first ≤ a ∧ a ≤ last) := by
  unfold insertRange
  split
  · rename_i h
    rw [mem_join (r := ⟨first, last⟩) h hp, or_comm]
    rfl
  · rename_i h
    simp only [IPv4.le_def] at h ⊢
    exact ⟨Or.inl, fun h => h.resolve_right (by omega)⟩

theorem canonical_insertRange (hp : p.Canonical) {first last : IPv4} : (p.insertRange first last).Canonical := by
  unfold insertRange
  split
  · rename_i h
    exact canonical_join (r := ⟨first, last⟩) h hp
  · exact hp

theorem mem_insert (hp : p.Canonical) {b : IPv4} : a ∈ p.insert b ↔ a ∈ p ∨ a = b := by
  rw [insert, mem_insertRange hp]
  exact or_congr Iff.rfl Range.mem_singleton

theorem canonical_insert (hp : p.Canonical) {b : IPv4} : (p.insert b).Canonical := canonical_insertRange hp

/-! ## Removing -/

theorem mem_eraseRange {first last : IPv4} :
    a ∈ p.eraseRange first last ↔ a ∈ p ∧ ¬ (first ≤ a ∧ a ≤ last) := by
  unfold eraseRange
  split
  · calc (∃ q ∈ p.ranges.flatMap (·.minus ⟨first, last⟩), a ∈ q)
      _ ↔ ∃ r ∈ p.ranges, ∃ q ∈ r.minus ⟨first, last⟩, a ∈ q := by
        simp only [List.mem_flatMap]
        exact ⟨fun ⟨q, ⟨r, hr, hq⟩, ha⟩ => ⟨r, hr, q, hq, ha⟩, fun ⟨r, hr, q, hq, ha⟩ => ⟨q, ⟨r, hr, hq⟩, ha⟩⟩
      _ ↔ a ∈ p ∧ a ∉ (⟨first, last⟩ : Range) := by
        simp only [Range.mem_minus, mem_def]
        exact ⟨fun ⟨r, hr, ha, h⟩ => ⟨⟨r, hr, ha⟩, h⟩, fun ⟨⟨r, hr, ha⟩, h⟩ => ⟨r, hr, ha, h⟩⟩
  · rename_i h
    simp only [IPv4.le_def] at h ⊢
    exact ⟨fun ha => ⟨ha, by omega⟩, And.left⟩

theorem canonical_eraseRange (hp : p.Canonical) {first last : IPv4} : (p.eraseRange first last).Canonical := by
  unfold eraseRange
  split
  · rename_i h
    refine ⟨fun q hq => ?_, List.pairwise_flatMap.2 ⟨fun r _ => Range.pairwise_minus h, ?_⟩⟩
    · obtain ⟨r, hr, hq⟩ := List.mem_flatMap.1 hq
      exact (Range.minus_bounds (hp.1 r hr) hq).1
    · refine hp.2.imp_of_mem fun {r s} hr hs hrs x hx y hy => ?_
      have hx := Range.minus_bounds (hp.1 r hr) hx
      have hy := Range.minus_bounds (hp.1 s hs) hy
      rw [Range.before_def] at hrs ⊢
      omega
  · exact hp

theorem mem_erase {b : IPv4} : a ∈ p.erase b ↔ a ∈ p ∧ a ≠ b := by
  rw [erase, mem_eraseRange]
  exact and_congr Iff.rfl (not_congr Range.mem_singleton)

theorem canonical_erase (hp : p.Canonical) {b : IPv4} : (p.erase b).Canonical := canonical_eraseRange hp

/-! ## The lowest address -/

theorem popLowest?_eq_none (hp : p.Canonical) : p.popLowest? = none ↔ ∀ a, a ∉ p := by
  obtain ⟨_ | ⟨r, rest⟩⟩ := p
  · simp [popLowest?]
  · simp only [popLowest?, reduceCtorEq, false_iff, not_forall, not_not]
    exact ⟨_, first_mem hp⟩

theorem popLowest?_eq_some (hp : p.Canonical) {b : IPv4} {q : Pool} (h : p.popLowest? = some (b, q)) :
    q.Canonical ∧ b ∈ p ∧ (∀ a ∈ p, b ≤ a) ∧ ∀ a, a ∈ q ↔ a ∈ p ∧ a ≠ b := by
  obtain ⟨_ | ⟨r, rest⟩⟩ := p
  · simp [popLowest?] at h
  obtain ⟨hr, hb, hrest⟩ := canonical_cons.1 hp
  rw [Range.nonempty_def] at hr
  simp only [popLowest?, Option.some.injEq, Prod.mk.injEq] at h
  obtain ⟨rfl, rfl⟩ := h
  refine ⟨?_, mem_cons.2 (Or.inl ⟨Nat.le_refl _, hr⟩), fun a ha => ?_, fun a => ?_⟩
  · split
    · rename_i hlt
      exact canonical_cons.2 ⟨by rw [Range.nonempty_def, IPv4.toNat_succ hlt]; exact hlt, hb, hrest⟩
    · exact hrest
  · rw [IPv4.le_def]
    rcases mem_cons.1 ha with ha | ha
    · exact ha.1
    · have := lt_of_mem_tail hp ha
      omega
  · have htail : a ∈ (⟨rest⟩ : Pool) → r.last.toNat + 1 < a.toNat := lt_of_mem_tail hp
    have hsucc : r.first.toNat < r.last.toNat → r.first.succ.toNat = r.first.toNat + 1 := IPv4.toNat_succ
    rw [mem_cons, ← IPv4.toNat_ne, Range.mem_def]
    split
    · rename_i hlt
      rw [IPv4.lt_def] at hlt
      rw [mem_cons, Range.mem_def, hsucc hlt]
      by_cases ha : a ∈ (⟨rest⟩ : Pool)
      · have := htail ha
        simp only [ha, or_true, true_and, true_iff]
        omega
      · simp only [ha, or_false]
        omega
    · rename_i hlt
      rw [IPv4.lt_def] at hlt
      by_cases ha : a ∈ (⟨rest⟩ : Pool)
      · have := htail ha
        simp only [ha, or_true, true_and, true_iff]
        omega
      · simp only [ha, or_false, false_iff]
        omega

/-! ## One form -/

variable {q : Pool} {s : Range} {m : List Range}

/-- No member lies below the first range. -/
theorem first_le_of_mem (h : Canonical ⟨r :: l⟩) (ha : a ∈ (⟨r :: l⟩ : Pool)) : r.first.toNat ≤ a.toNat := by
  have hr := (canonical_cons.1 h).1
  rw [Range.nonempty_def] at hr
  rcases mem_cons.1 ha with ha | ha
  · exact ha.1
  · have := lt_of_mem_tail h ha
    omega

/-- The address behind the first range is no member. -/
theorem not_mem_behind (h : Canonical ⟨r :: l⟩) (ha : a.toNat = r.last.toNat + 1) : a ∉ (⟨r :: l⟩ : Pool) := by
  intro hmem
  rcases mem_cons.1 hmem with hmem | hmem
  · have := (Range.mem_def.1 hmem).2
    omega
  · have := lt_of_mem_tail h hmem
    omega

/-- A pool that has all members of another starts with a range that ends no earlier, if both start at one address. -/
theorem last_le_of_subset (hp : Canonical ⟨r :: l⟩) (hfirst : r.first.toNat = s.first.toNat)
    (h : ∀ a ∈ (⟨s :: m⟩ : Pool), a ∈ (⟨r :: l⟩ : Pool)) : s.last.toNat ≤ r.last.toNat := by
  by_contra hlt
  have hsucc : r.last.succ.toNat = r.last.toNat + 1 := IPv4.toNat_succ (b := s.last) (by omega)
  have hr := (canonical_cons.1 hp).1
  rw [Range.nonempty_def] at hr
  have hmem : r.last.succ ∈ s := by
    rw [Range.mem_def, hsucc]
    omega
  exact not_mem_behind hp hsucc (h _ (mem_cons.2 (Or.inl hmem)))

/-- Canonical pools with the same members start with the same range. -/
theorem head_eq (hp : Canonical ⟨r :: l⟩) (hq : Canonical ⟨s :: m⟩)
    (h : ∀ a, a ∈ (⟨r :: l⟩ : Pool) ↔ a ∈ (⟨s :: m⟩ : Pool)) : r = s := by
  have hfirst : r.first.toNat = s.first.toNat :=
    Nat.le_antisymm (first_le_of_mem hp ((h _).2 (first_mem hq))) (first_le_of_mem hq ((h _).1 (first_mem hp)))
  have hlast : r.last.toNat = s.last.toNat :=
    Nat.le_antisymm (last_le_of_subset hq hfirst.symm fun a ha => (h a).1 ha)
      (last_le_of_subset hp hfirst fun a ha => (h a).2 ha)
  exact Range.eq_of_toNat hfirst hlast

/-- Canonical pools with the same members have the same ranges. -/
theorem eq_of_mem_iff (hp : p.Canonical) (hq : q.Canonical) (h : ∀ a, a ∈ p ↔ a ∈ q) : p = q := by
  obtain ⟨l⟩ := p
  obtain ⟨m⟩ := q
  congr 1
  induction l generalizing m with
  | nil =>
    cases m with
    | nil => rfl
    | cons s m => exact absurd ((h _).2 (first_mem hq)) not_mem_nil
  | cons r l ih =>
    cases m with
    | nil => exact absurd ((h _).1 (first_mem hp)) not_mem_nil
    | cons s m =>
      obtain rfl := head_eq hp hq h
      rw [ih (canonical_cons.1 hp).2.2 m (canonical_cons.1 hq).2.2 fun a => ?_]
      -- members behind the common first range are told apart from those in it by where they lie
      have hin : a ∈ r → a.toNat ≤ r.last.toNat := fun ha => (Range.mem_def.1 ha).2
      have hl : a ∈ (⟨l⟩ : Pool) → r.last.toNat + 1 < a.toNat := lt_of_mem_tail hp
      have hm : a ∈ (⟨m⟩ : Pool) → r.last.toNat + 1 < a.toNat := lt_of_mem_tail hq
      have hall := h a
      rw [mem_cons, mem_cons] at hall
      constructor
      · intro ha
        apply (hall.1 (Or.inr ha)).resolve_left
        intro har
        have := hin har
        have := hl ha
        omega
      · intro ha
        apply (hall.2 (Or.inr ha)).resolve_left
        intro har
        have := hin har
        have := hm ha
        omega

/-! ## Counting -/

instance : Finite IPv4 := Finite.of_injective (fun a => a.bits.toFin) fun a b h => by
  rw [← IPv4.toNat_inj]
  exact congrArg Fin.val h

theorem Range.size_eq_ncard (hr : r.Nonempty) : r.size = {a | a ∈ r}.ncard := by
  have himage : IPv4.toNat '' {a | a ∈ r} = Finset.Icc r.first.toNat r.last.toNat := by
    ext n
    simp only [Set.mem_image, Set.mem_ofPred_eq, Range.mem_def, Finset.coe_Icc, Set.mem_Icc]
    constructor
    · rintro ⟨a, ha, rfl⟩
      exact ha
    · intro hn
      have := r.last.toNat_lt
      have hn' : (IPv4.ofNat n).toNat = n := by rw [IPv4.toNat_ofNat, Nat.mod_eq_of_lt (by omega)]
      exact ⟨IPv4.ofNat n, by rwa [hn'], hn'⟩
  rw [Range.nonempty_def] at hr
  rw [← Set.ncard_image_of_injective _ fun a b h => IPv4.toNat_inj.1 h, himage, Set.ncard_coe_finset, Nat.card_Icc,
    Range.size]
  omega

theorem Range.common_eq_ncard {s : Range} (hr : r.Nonempty) (hs : s.Nonempty) :
    r.common s = ({a | a ∈ r} ∩ {a | a ∈ s}).ncard := by
  unfold common
  split
  · rename_i h
    rw [size_eq_ncard (nonempty_overlap hr hs h)]
    exact congrArg Set.ncard (Set.ext fun a => mem_overlap)
  · rename_i h
    have hempty : {a | a ∈ r} ∩ {a | a ∈ s} = (∅ : Set IPv4) :=
      Set.eq_empty_of_forall_notMem fun a ha => h ((meets_iff hr hs).2 ⟨a, ha⟩)
    rw [hempty, Set.ncard_empty]

/-- There are `2 ^ 32` addresses. -/
theorem ncard_le (S : Set IPv4) : S.ncard ≤ 0x100000000 := by
  have hsub : IPv4.toNat '' S ⊆ (Finset.range 0x100000000 : Set Nat) := by
    rintro _ ⟨a, -, rfl⟩
    simpa using a.toNat_lt
  rw [← Set.ncard_image_of_injective S fun a b h => IPv4.toNat_inj.1 h]
  calc (IPv4.toNat '' S).ncard
    _ ≤ (Finset.range 0x100000000 : Set Nat).ncard := Set.ncard_le_ncard hsub (Finset.finite_toSet _)
    _ = 0x100000000 := by rw [Set.ncard_coe_finset, Finset.card_range]

theorem size_cons : size ⟨r :: l⟩ = r.size + size ⟨l⟩ := by simp [size]

theorem countRange_cons {first last : IPv4} (h : first ≤ last) :
    countRange ⟨r :: l⟩ first last = r.common ⟨first, last⟩ + countRange ⟨l⟩ first last := by simp [countRange, h]

/-- The members of a pool in some set are counted range by range. -/
theorem ncard_cons (h : Canonical ⟨r :: l⟩) (S : Set IPv4) :
    ({a | a ∈ (⟨r :: l⟩ : Pool)} ∩ S).ncard = ({a | a ∈ r} ∩ S).ncard + ({a | a ∈ (⟨l⟩ : Pool)} ∩ S).ncard := by
  have hunion : {a | a ∈ (⟨r :: l⟩ : Pool)} = {a | a ∈ r} ∪ {a | a ∈ (⟨l⟩ : Pool)} := Set.ext fun a => mem_cons
  have hdisjoint : Disjoint {a | a ∈ r} {a | a ∈ (⟨l⟩ : Pool)} := by
    refine Set.disjoint_left.2 fun a ha ha' => ?_
    have hlow := lt_of_mem_tail h ha'
    have hhigh := (Range.mem_def.1 ha).2
    omega
  rw [hunion, Set.union_inter_distrib_right]
  exact Set.ncard_union_eq (hdisjoint.mono Set.inter_subset_left Set.inter_subset_left)

/-- The size is the number of members. -/
theorem size_eq_ncard (hp : p.Canonical) : p.size = {a | a ∈ p}.ncard := by
  obtain ⟨l⟩ := p
  induction l with
  | nil => simp [size]
  | cons r rest ih =>
    obtain ⟨hr, -, hrest⟩ := canonical_cons.1 hp
    have hcons := ncard_cons hp Set.univ
    simp only [Set.inter_univ] at hcons
    rw [hcons, ← ih hrest, ← Range.size_eq_ncard hr, size_cons]

/-- Counting in an interval counts the members there. -/
theorem countRange_eq_ncard (hp : p.Canonical) {first last : IPv4} :
    p.countRange first last = ({a | a ∈ p} ∩ {a | first ≤ a ∧ a ≤ last}).ncard := by
  unfold countRange
  split
  · rename_i h
    obtain ⟨l⟩ := p
    induction l with
    | nil => simp
    | cons r rest ih =>
      obtain ⟨hr, -, hrest⟩ := canonical_cons.1 hp
      rw [ncard_cons hp, ← ih hrest, List.map_cons, List.sum_cons]
      exact congrArg (· + _) (Range.common_eq_ncard (s := ⟨first, last⟩) hr h)
  · rename_i h
    have hempty : {a : IPv4 | first ≤ a ∧ a ≤ last} = ∅ := by
      refine Set.eq_empty_of_forall_notMem fun a ⟨hf, hl⟩ => h ?_
      rw [IPv4.le_def] at hf hl ⊢
      omega
    rw [hempty, Set.inter_empty, Set.ncard_empty]

/-- An address counts once if it is a member. -/
theorem countRange_self (hp : p.Canonical) : p.countRange a a = 1 ↔ a ∈ p := by
  have hself : {b : IPv4 | a ≤ b ∧ b ≤ a} = {a} := Set.ext fun b => Range.mem_singleton
  rw [countRange_eq_ncard hp, hself]
  by_cases ha : a ∈ p
  · rw [Set.inter_eq_right.2 (by simpa using ha)]
    simp [ha]
  · have hempty : {b | b ∈ p} ∩ {a} = ∅ := Set.inter_singleton_eq_empty.2 ha
    rw [hempty]
    simp [ha]

/-- Whether a pool meets an interval is whether it has a member there. -/
theorem meetsRange_iff (hp : p.Canonical) {first last : IPv4} :
    p.meetsRange first last = true ↔ ∃ a ∈ p, first ≤ a ∧ a ≤ last := by
  simp only [meetsRange, List.any_eq_true, decide_eq_true_eq]
  constructor
  · rintro ⟨hne, r, hr, hmeets⟩
    obtain ⟨a, har, ha⟩ := (Range.meets_iff (s := ⟨first, last⟩) (hp.1 r hr) hne).1 hmeets
    exact ⟨a, ⟨r, hr, har⟩, ha⟩
  · rintro ⟨a, ⟨r, hr, har⟩, ha⟩
    have hne : first ≤ last := Nat.le_trans ha.1 ha.2
    exact ⟨hne, r, hr, (Range.meets_iff (s := ⟨first, last⟩) (hp.1 r hr) hne).2 ⟨a, har, ha⟩⟩

end Pool

end Nat64
