import Nat64.Checksum.PseudoHeader
import Nat64.Proofs.Bytes

/-!
# What a checksum says

An end-around carry changes a sum by a multiple of `65535` and never makes it zero. So all that is left of a sum,
however it was folded and split over segments, is its class under `Same`, and every sum of the program is in the class
of `exactSum`, which never carries.

* `same_wordSum`, `Accumulator.Reads.addSegments`: one buffer, and a stream in segments.
* `fold_eq_of_same`: sums of one class fold to the same word.
-/

namespace Nat64.Checksum

/-! ## Classes of sums -/

/-- Sums that no end-around carry tells apart. -/
def Same (m n : Nat) : Prop := m % 65535 = n % 65535 ∧ (m = 0 ↔ n = 0)

section Same

variable {k l m n : Nat}

theorem Same.refl (n : Nat) : Same n n := ⟨rfl, Iff.rfl⟩

theorem Same.symm (h : Same m n) : Same n m := ⟨h.1.symm, h.2.symm⟩

theorem Same.trans (h : Same l m) (h' : Same m n) : Same l n := ⟨h.1.trans h'.1, h.2.trans h'.2⟩

theorem Same.add (h : Same k l) (h' : Same m n) : Same (k + m) (l + n) := by
  obtain ⟨hmod, hzero⟩ := h
  obtain ⟨hmod', hzero'⟩ := h'
  constructor <;> omega

theorem same_carry (n : Nat) : Same (carry n) n := ⟨carry_mod n, carry_eq_zero_iff n⟩

theorem same_fold (h : n < 0x100000000) : Same (fold n).toNat n := by
  rw [toNat_fold h]
  exact (same_carry _).trans (same_carry n)

/-- A class has one word in it. -/
theorem eq_of_same {v w : UInt16} (h : Same v.toNat w.toNat) : v = w := by
  obtain ⟨hmod, hzero⟩ := h
  have hv := v.toNat_lt
  have hw := w.toNat_lt
  apply UInt16.toNat_inj.1
  omega

theorem fold_eq_of_same (h : Same m n) (hm : m < 0x100000000) (hn : n < 0x100000000) : fold m = fold n :=
  eq_of_same (((same_fold hm).trans h).trans (same_fold hn).symm)

end Same

/-! ## Sums of words -/

/-- The sum of the 16-bit words of a buffer, with nothing carried; a last odd byte is the high half of its word. -/
def exactSum : Bytes → Nat
  | [] => 0
  | [last] => last.toNat * 0x100
  | high :: low :: rest => high.toNat * 0x100 + low.toNat + exactSum rest

theorem addWord_eq (sum word : Nat) :
    addWord sum word = if 0x80000000 ≤ sum + word then carry (sum + word) else sum + word := rfl

theorem same_addWord (sum word : Nat) : Same (addWord sum word) (sum + word) := by
  rw [addWord_eq]
  split
  · exact same_carry _
  · exact Same.refl _

theorem same_wordSumFrom (sum : Nat) (data : Bytes) : Same (wordSumFrom sum data) (sum + exactSum data) := by
  fun_induction wordSumFrom sum data with
  | case1 sum => exact Same.refl sum
  | case2 sum last => exact Same.refl _
  | case3 sum high low rest ih =>
    rw [exactSum, ← Nat.add_assoc]
    exact ih.trans ((same_addWord sum _).add (Same.refl _))

theorem same_wordSum (data : Bytes) : Same (wordSum data) (exactSum data) := by
  have h := same_wordSumFrom 0 data
  rwa [Nat.zero_add] at h

/-- The running sum keeps within 31 bits, so that the last byte cannot take it out of 32. -/
theorem wordSumFrom_lt {sum : Nat} (h : sum < 0x80000000) (data : Bytes) : wordSumFrom sum data < 0x80010000 := by
  fun_induction wordSumFrom sum data with
  | case1 sum => omega
  | case2 sum last =>
    have := last.toNat_lt
    omega
  | case3 sum high low rest ih =>
    have hhigh := high.toNat_lt
    have hlow := low.toNat_lt
    refine ih ?_
    rw [addWord_eq, carry]
    split <;> omega

theorem wordSum_lt (data : Bytes) : wordSum data < 0x80010000 := wordSumFrom_lt (by decide) data

theorem wordSumFrom_le (sum : Nat) (data : Bytes) : wordSumFrom sum data ≤ sum + exactSum data := by
  fun_induction wordSumFrom sum data with
  | case1 sum => exact Nat.le_refl _
  | case2 sum last => exact Nat.le_refl _
  | case3 sum high low rest ih =>
    have hadd : addWord sum (high.toNat * 0x100 + low.toNat) ≤ sum + (high.toNat * 0x100 + low.toNat) := by
      rw [addWord_eq, carry]
      split <;> omega
    rw [exactSum]
    omega

theorem exactSum_le (data : Bytes) : exactSum data ≤ 65535 * ((data.length + 1) / 2) := by
  fun_induction exactSum data with
  | case1 => exact Nat.zero_le _
  | case2 last =>
    have := last.toNat_lt
    simp only [List.length_cons, List.length_nil]
    omega
  | case3 high low rest ih =>
    have hhigh := high.toNat_lt
    have hlow := low.toNat_lt
    simp only [List.length_cons]
    omega

theorem wordSum_le (data : Bytes) : wordSum data ≤ 65535 * ((data.length + 1) / 2) := by
  have h := wordSumFrom_le 0 data
  rw [Nat.zero_add] at h
  exact Nat.le_trans h (exactSum_le data)

/-- Only zeros add up to zero. -/
theorem exactSum_eq_zero {data : Bytes} : exactSum data = 0 ↔ ∀ b ∈ data, b = 0 := by
  fun_induction exactSum data with
  | case1 => simp
  | case2 last =>
    rw [List.forall_mem_singleton, ← UInt8.toNat_inj, UInt8.toNat_zero]
    omega
  | case3 high low rest ih =>
    have hrest : (∀ b ∈ rest, b = 0) ↔ exactSum rest = 0 := ih.symm
    rw [List.forall_mem_cons, List.forall_mem_cons, hrest, ← UInt8.toNat_inj, ← UInt8.toNat_inj, UInt8.toNat_zero]
    omega

/-- Two parts are summed apart if the first ends on a word boundary. -/
theorem exactSum_append {a : Bytes} (h : a.length % 2 = 0) (b : Bytes) :
    exactSum (a ++ b) = exactSum a + exactSum b := by
  fun_induction exactSum a with
  | case1 => rw [List.nil_append, Nat.zero_add]
  | case2 last => cases h
  | case3 high low rest ih =>
    simp only [List.length_cons] at h
    rw [List.cons_append, List.cons_append, exactSum, ih (by omega), ← Nat.add_assoc]

/-- If it does not, the next byte is the low half of the word left open. -/
theorem exactSum_append_cons {a : Bytes} (h : a.length % 2 = 1) (low : UInt8) (b : Bytes) :
    exactSum (a ++ low :: b) = exactSum a + low.toNat + exactSum b := by
  fun_induction exactSum a with
  | case1 => cases h
  | case2 last => rw [List.cons_append, List.nil_append, exactSum]
  | case3 high low' rest ih =>
    simp only [List.length_cons] at h
    rw [List.cons_append, List.cons_append, exactSum, ih (by omega)]
    omega

/-! ## Streams -/

/-- An accumulator has read a stream, on top of a sum computed elsewhere. -/
structure Accumulator.Reads (acc : Accumulator) (front : Nat) (seen : Bytes) : Prop where
  same : Same acc.sum (front + exactSum seen)
  odd_eq : acc.odd = (seen.length % 2 == 1)
  sum_lt : acc.sum < 0x80020000

namespace Accumulator

variable {acc : Accumulator} {front : Nat} {seen data : Bytes}

theorem reads_nil : Reads {} 0 [] where
  same := Same.refl 0
  odd_eq := rfl
  sum_lt := by decide

theorem Reads.addSum (h : acc.Reads front seen) {n : Nat} (hn : n < 0x100000000) :
    (acc.addSum n).Reads (front + n) seen where
  same := by
    have hlt := h.sum_lt
    rw [Nat.add_right_comm]
    exact ((same_fold (by omega)).trans h.same).add (same_fold hn)
  odd_eq := h.odd_eq
  sum_lt := by
    have hold := (fold acc.sum).toNat_lt
    have hnew := (fold n).toNat_lt
    show (fold acc.sum).toNat + (fold n).toNat < _
    omega

theorem reads_addSum (h : front < 0x100000000) : (Accumulator.addSum {} front).Reads front [] := by
  have hreads := reads_nil.addSum h
  rwa [Nat.zero_add] at hreads

/-- What starts on a word boundary is added word by word. -/
theorem reads_addWords (hsame : Same acc.sum (front + exactSum seen)) (hodd : acc.odd = (seen.length % 2 == 1))
    (hlt : acc.sum < 0x100000000) (heven : seen.length % 2 = 0 ∨ data = []) :
    (acc.addWords data).Reads front (seen ++ data) where
  same := by
    have hsum : exactSum (seen ++ data) = exactSum seen + exactSum data := by
      rcases heven with heven | rfl
      · exact exactSum_append heven data
      · rw [List.append_nil, exactSum, Nat.add_zero]
    rw [hsum, ← Nat.add_assoc]
    exact ((same_fold hlt).trans hsame).add (same_wordSum data)
  odd_eq := by
    show (acc.odd || data.length % 2 == 1) = _
    rw [hodd, List.length_append]
    rcases heven with heven | rfl
    · rw [heven, Nat.add_mod, heven, Nat.zero_add, Nat.mod_mod]
      rfl
    · simp
  sum_lt := by
    have hfold := (fold acc.sum).toNat_lt
    have hwords := wordSum_lt data
    show (fold acc.sum).toNat + wordSum data < _
    omega

theorem addBytes_open (h : acc.odd = true) (low : UInt8) (rest : Bytes) :
    acc.addBytes (low :: rest) = addWords { sum := acc.sum + low.toNat, odd := false } rest := by
  unfold addBytes
  rw [h]

theorem addBytes_closed (h : acc.odd = false ∨ data = []) : acc.addBytes data = acc.addWords data := by
  unfold addBytes
  rcases h with h | rfl
  · rw [h]
  · cases acc.odd <;> rfl

theorem Reads.addBytes (h : acc.Reads front seen) (data : Bytes) : (acc.addBytes data).Reads front (seen ++ data) := by
  have hlt := h.sum_lt
  have hodd := h.odd_eq
  by_cases hclosed : acc.odd = false ∨ data = []
  · rw [addBytes_closed hclosed]
    refine reads_addWords h.same hodd (by omega) (hclosed.imp_left fun hclosed => ?_)
    rw [hclosed, eq_comm, beq_eq_false_iff_ne] at hodd
    omega
  · -- the first byte completes the open word, so the rest starts on a word boundary
    obtain ⟨hopen, hne⟩ := not_or.1 hclosed
    rw [Bool.not_eq_false] at hopen
    rw [hopen, eq_comm, beq_iff_eq] at hodd
    obtain ⟨low, rest, rfl⟩ := List.exists_cons_of_ne_nil hne
    have hlow := low.toNat_lt
    have heven : (seen ++ [low]).length % 2 = 0 := by
      rw [List.length_append, List.length_singleton]
      omega
    have hsame : Same (acc.sum + low.toNat) (front + exactSum (seen ++ [low])) := by
      rw [exactSum_append_cons hodd, exactSum, Nat.add_zero, ← Nat.add_assoc]
      exact h.same.add (Same.refl low.toNat)
    have hrest : (addWords { sum := acc.sum + low.toNat, odd := false } rest).Reads front (seen ++ [low] ++ rest) :=
      reads_addWords hsame (by rw [heven]; rfl) (Nat.lt_of_lt_of_le (Nat.add_lt_add hlt hlow) (by decide))
        (Or.inl heven)
    rw [addBytes_open hopen]
    rwa [List.append_assoc] at hrest

theorem Reads.addSegments (h : acc.Reads front seen) (segments : List Bytes) :
    (acc.addSegments segments).Reads front (seen ++ segments.flatten) := by
  induction segments generalizing acc seen with
  | nil =>
    rw [List.flatten_nil, List.append_nil]
    exact h
  | cons data rest ih =>
    rw [List.flatten_cons, ← List.append_assoc]
    exact ih (h.addBytes data)

theorem Reads.same_total (h : acc.Reads front seen) : Same acc.total.toNat (front + exactSum seen) := by
  have hlt := h.sum_lt
  exact (same_fold (by omega)).trans h.same

end Accumulator

end Nat64.Checksum
