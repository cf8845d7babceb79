import Nat64.Proofs.Machine.Basic
import Nat64.Proofs.Pool

/-!
# Pools on the machine

The machine keeps the ranges of a pool in an ordered map, the last address of each under its first one, and reaches them
through the map alone: the neighbour of a key on either side, the entries between two keys, an entry written or taken
away. A range that is added swallows its neighbours one after the other; one that is removed is cut out of every entry
that it meets. Sums and differences of addresses have 32 bits where they become addresses again, else 64.

* `RangeMap.upTo?`, `RangeMap.below?`, `RangeMap.from?`, `RangeMap.between`,
  `RangeMap.insert`, `RangeMap.remove`: the map.
* `RangeMap.absorbAll`: the loop that swallows what follows; every round takes an entry away, so it ends.
* `RangeMap.insertRange_eq`, `RangeMap.eraseRange_eq`, `RangeMap.popLowest_eq`, `RangeMap.meetsRange_eq`,
  `RangeMap.size_eq`: on the ranges of a canonical pool none of them traps, and they do what the definitions do.
-/

namespace Nat64.Machine

/-- An ordered map from the first addresses of ranges to their last ones. -/
abbrev RangeMap := List Pool.Range

namespace RangeMap

/-! ## The map -/

/-- The entry with the greatest key up to an address. -/
def upTo? (m : RangeMap) (k : IPv4) : Option Pool.Range := (m.filter (·.first ≤ k)).getLast?

/-- The entry with the greatest key below an address. -/
def below? (m : RangeMap) (k : IPv4) : Option Pool.Range := (m.filter (·.first < k)).getLast?

/-- The entry with the least key from an address on. -/
def from? (m : RangeMap) (k : IPv4) : Option Pool.Range := m.find? (k ≤ ·.first)

/-- The entries with keys between two addresses, which have to be in order. -/
def between (m : RangeMap) (first last : IPv4) : Run (List Pool.Range) := do
  assert (first ≤ last)
  return m.filter fun r => first ≤ r.first ∧ r.first ≤ last

/-- Takes away the entry under a key. -/
def remove (m : RangeMap) (k : IPv4) : RangeMap := m.filter (·.first ≠ k)

/-- Writes an entry, over the one under the same key if there is any. -/
def insert (m : RangeMap) (r : Pool.Range) : RangeMap :=
  m.takeWhile (·.first < r.first) ++ r :: m.dropWhile (·.first ≤ r.first)

/-! ## Adding -/

/-- A range from the first address of one to the later of two ends. -/
def reach (first : IPv4) (r s : Pool.Range) : Pool.Range := ⟨first, if r.last ≤ s.last then s.last else r.last⟩

/-- Swallows the entry before a range, if they meet or touch. -/
def absorbBefore (m : RangeMap) (r : Pool.Range) : Run (RangeMap × Pool.Range) :=
  match m.upTo? r.first with
  | none => return (m, r)
  | some s => do
    let next ← add .w64 s.last.toNat 1
    if r.first.toNat ≤ next then return (m.remove s.first, reach s.first r s) else return (m, r)

/-- Swallows the entry after a range, if they meet or touch. -/
def absorb? (m : RangeMap) (r : Pool.Range) : Run (Option (RangeMap × Pool.Range)) :=
  match m.from? r.first with
  | none => return none
  | some s => do
    let next ← add .w64 r.last.toNat 1
    if next < s.first.toNat then return none else return some (m.remove s.first, reach r.first r s)

/-- What is swallowed leaves the map. -/
theorem length_absorb? {m m' : RangeMap} {r r' : Pool.Range} (h : absorb? m r = .ok (some (m', r'))) :
    m'.length < m.length := by
  unfold absorb? at h
  split at h
  · cases h
  · rename_i s hs
    rw [add_w64 (by have := r.last.toNat_lt; omega), Except.bind_eq_ok] at h
    obtain ⟨next, -, h⟩ := h
    split at h
    · cases h
    · cases h
      exact List.length_filter_lt_length_iff_exists.2 ⟨s, List.mem_of_find?_eq_some hs, by simp⟩

/-- Swallows entries after a range as long as they meet or touch. -/
def absorbAll (m : RangeMap) (r : Pool.Range) : Run (RangeMap × Pool.Range) :=
  match _h : absorb? m r with
  | .error trap => .error trap
  | .ok none => .ok (m, r)
  | .ok (some (m', r')) => absorbAll m' r'
termination_by m.length
decreasing_by exact length_absorb? _h

/-- Adds all addresses from `first` to `last`. -/
def insertRange (m : RangeMap) (first last : IPv4) : Run RangeMap :=
  if last < first then return m
  else do
    let (m, r) ← absorbBefore m ⟨first, last⟩
    let (m, r) ← absorbAll m r
    return m.insert r

/-! ## Removing -/

/-- Writes back what an entry has below an address. -/
def putBelow (m : RangeMap) (r : Pool.Range) (first : IPv4) : Run RangeMap :=
  if r.first < first then do
    let before ← sub first.toNat 1
    return m.insert ⟨r.first, IPv4.ofNat before⟩
  else return m

/-- Writes back what an entry has above an address. -/
def putAbove (m : RangeMap) (r : Pool.Range) (last : IPv4) : Run RangeMap :=
  if last < r.last then do
    let next ← add .w32 last.toNat 1
    return m.insert ⟨IPv4.ofNat next, r.last⟩
  else return m

/-- Cuts the addresses from `first` to `last` out of an entry that has some of them, and counts these. -/
def cut (first last : IPv4) (state : Nat × RangeMap) (r : Pool.Range) : Run (Nat × RangeMap) := do
  let shared := r.overlap ⟨first, last⟩
  let distance ← sub shared.last.toNat shared.first.toNat
  let size ← add .w64 distance 1
  let count ← add .w64 state.1 size
  let m ← putBelow (state.2.remove r.first) r first
  let m ← putAbove m r last
  return (count, m)

/-- Removes all addresses from `first` to `last`, and says how many there were. -/
def eraseRange (m : RangeMap) (first last : IPv4) : Run (Nat × RangeMap) :=
  if last < first then return (0, m)
  else do
    let inside ← m.between first last
    ((m.below? first).toList.filter (first ≤ ·.last) ++ inside).foldlM (cut first last) (0, m)

/-- Removes the lowest address. -/
def popLowest (m : RangeMap) : Run (Option IPv4 × RangeMap) :=
  match m with
  | [] => return (none, m)
  | r :: rest =>
    if r.first < r.last then do
      let next ← add .w32 r.first.toNat 1
      return (some r.first, RangeMap.insert rest ⟨IPv4.ofNat next, r.last⟩)
    else return (some r.first, rest)

/-! ## Looking -/

/-- Whether an address from `first` to `last` belongs to the pool, by the last range that starts no later. -/
def meetsRange (m : RangeMap) (first last : IPv4) : Bool :=
  if last < first then false else (m.upTo? last).any (first ≤ ·.last)

/-- The number of addresses. -/
def size (m : RangeMap) : Run Nat :=
  m.foldlM (fun n r => do
    let distance ← sub r.last.toNat r.first.toNat
    let size ← add .w64 distance 1
    add .w64 n size) 0

/-! ## Keys in order -/

section Keys

variable {m lo hi : RangeMap} {k : IPv4} {r s : Pool.Range}

theorem canonical_append :
    Pool.Canonical ⟨lo ++ hi⟩ ↔ Pool.Canonical ⟨lo⟩ ∧ Pool.Canonical ⟨hi⟩ ∧ ∀ r ∈ lo, ∀ s ∈ hi, r.Before s := by
  simp only [Pool.Canonical, List.forall_mem_append, List.pairwise_append]
  constructor
  · rintro ⟨⟨hlo, hhi⟩, hplo, hphi, hbefore⟩
    exact ⟨⟨hlo, hplo⟩, ⟨hhi, hphi⟩, hbefore⟩
  · rintro ⟨⟨hlo, hplo⟩, ⟨hhi, hphi⟩, hbefore⟩
    exact ⟨⟨hlo, hhi⟩, hplo, hphi, hbefore⟩

theorem last_lt_of_before (h : r.Before s) : r.last.toNat < s.first.toNat := Nat.lt_of_succ_lt h

/-- Entries are in the order of their keys. -/
theorem first_lt_of_before (hr : r.Nonempty) (h : r.Before s) : r.first.toNat < s.first.toNat :=
  Nat.lt_of_le_of_lt hr (last_lt_of_before h)

/-- A canonical map falls apart at every number: keys below it, and the others. -/
theorem exists_split (hm : Pool.Canonical ⟨m⟩) (k : Nat) :
    ∃ lo hi, m = lo ++ hi ∧ (∀ r ∈ lo, r.first.toNat < k) ∧ ∀ r ∈ hi, k ≤ r.first.toNat := by
  induction m with
  | nil => exact ⟨[], [], rfl, by simp, by simp⟩
  | cons s rest ih =>
    obtain ⟨hs, hbefore, hrest⟩ := Pool.canonical_cons.1 hm
    by_cases hk : s.first.toNat < k
    · obtain ⟨lo, hi, rfl, hlo, hhi⟩ := ih hrest
      exact ⟨s :: lo, hi, rfl, List.forall_mem_cons.2 ⟨hk, hlo⟩, hhi⟩
    · refine ⟨[], s :: rest, rfl, by simp, List.forall_mem_cons.2 ⟨by omega, ?_⟩⟩
      intro r hr
      have hsr := first_lt_of_before hs (hbefore r hr)
      omega

theorem upTo?_append (hlo : ∀ r ∈ lo, r.first.toNat ≤ k.toNat) (hhi : ∀ r ∈ hi, k.toNat < r.first.toNat) :
    upTo? (lo ++ hi) k = lo.getLast? := by
  have hkeep : lo.filter (·.first ≤ k) = lo := List.filter_eq_self.2 fun r hr => decide_eq_true (hlo r hr)
  have hdrop : hi.filter (·.first ≤ k) = [] := List.filter_eq_nil_iff.2 fun r hr => by
    have := hhi r hr
    simp only [IPv4.le_def, decide_eq_true_eq]
    omega
  rw [upTo?, List.filter_append, hkeep, hdrop, List.append_nil]

theorem below?_append (hlo : ∀ r ∈ lo, r.first.toNat < k.toNat) (hhi : ∀ r ∈ hi, k.toNat ≤ r.first.toNat) :
    below? (lo ++ hi) k = lo.getLast? := by
  have hkeep : lo.filter (·.first < k) = lo := List.filter_eq_self.2 fun r hr => decide_eq_true (hlo r hr)
  have hdrop : hi.filter (·.first < k) = [] := List.filter_eq_nil_iff.2 fun r hr => by
    have := hhi r hr
    simp only [IPv4.lt_def, decide_eq_true_eq]
    omega
  rw [below?, List.filter_append, hkeep, hdrop, List.append_nil]

theorem from?_append (hlo : ∀ r ∈ lo, r.first.toNat < k.toNat) (hhi : ∀ r ∈ hi, k.toNat ≤ r.first.toNat) :
    from? (lo ++ hi) k = hi.head? := by
  have hnone : lo.find? (k ≤ ·.first) = none := List.find?_eq_none.2 fun r hr => by
    have := hlo r hr
    simp only [IPv4.le_def, decide_eq_true_eq]
    omega
  rw [from?, List.find?_append, hnone, Option.none_or]
  cases hi with
  | nil => rfl
  | cons s rest => exact List.find?_cons_of_pos (decide_eq_true (hhi s List.mem_cons_self))

theorem remove_append (hlo : ∀ r ∈ lo, r.first.toNat < s.first.toNat) (hhi : ∀ r ∈ hi, s.first.toNat < r.first.toNat) :
    remove (lo ++ s :: hi) s.first = lo ++ hi := by
  have hne {r : Pool.Range} (h : r.first.toNat ≠ s.first.toNat) : decide (r.first ≠ s.first) = true :=
    decide_eq_true (IPv4.toNat_ne.1 h)
  have hkeeplo : lo.filter (·.first ≠ s.first) = lo :=
    List.filter_eq_self.2 fun r hr => hne (by have := hlo r hr; omega)
  have hkeephi : hi.filter (·.first ≠ s.first) = hi :=
    List.filter_eq_self.2 fun r hr => hne (by have := hhi r hr; omega)
  rw [remove, List.filter_append, hkeeplo, List.filter_cons_of_neg (by simp), hkeephi]

theorem insert_append (hlo : ∀ s ∈ lo, s.first.toNat < r.first.toNat) (hhi : ∀ s ∈ hi, r.first.toNat < s.first.toNat) :
    insert (lo ++ hi) r = lo ++ r :: hi := by
  have hbelow : ∀ s ∈ lo, decide (s.first < r.first) = true := fun s hs => decide_eq_true (hlo s hs)
  have hupTo : ∀ s ∈ lo, decide (s.first ≤ r.first) = true := fun s hs => decide_eq_true (Nat.le_of_lt (hlo s hs))
  rw [insert, List.takeWhile_append_of_pos hbelow, List.dropWhile_append_of_pos hupTo]
  cases hi with
  | nil => simp
  | cons s rest =>
    have habove := hhi s List.mem_cons_self
    have hnotBelow : ¬ decide (s.first < r.first) = true := by
      simp only [IPv4.lt_def, decide_eq_true_eq]
      omega
    have hnotUpTo : ¬ decide (s.first ≤ r.first) = true := by
      simp only [IPv4.le_def, decide_eq_true_eq]
      omega
    simp only [List.takeWhile_cons, List.dropWhile_cons, if_neg hnotBelow, if_neg hnotUpTo, List.append_nil]

theorem insert_front (hhi : ∀ s ∈ hi, r.first.toNat < s.first.toNat) : insert hi r = r :: hi := by
  have hnone : ∀ s ∈ ([] : RangeMap), s.first.toNat < r.first.toNat := by simp
  exact insert_append hnone hhi

end Keys

/-! ## Adding does what it should -/

section Adding

variable {m lo hi : RangeMap} {r s : Pool.Range}

/-- What lies before a range is not touched when it is joined. -/
theorem join_append (hlo : ∀ s ∈ lo, s.Before r) : Pool.join r (lo ++ hi) = lo ++ Pool.join r hi := by
  induction lo with
  | nil => rfl
  | cons s lo ih =>
    obtain ⟨hs, hlo⟩ := List.forall_mem_cons.1 hlo
    rw [List.cons_append, Pool.join, if_pos hs, ih hlo, List.cons_append]

/-- A range that starts no later reaches over its hull with another. -/
theorem reach_eq_hull (h : r.first.toNat ≤ s.first.toNat) : reach r.first r s = r.hull s := by
  rw [reach, Pool.Range.hull, if_pos (IPv4.le_def.2 h)]

theorem reach_eq_hull_of_le (h : s.first.toNat ≤ r.first.toNat) : reach s.first r s = r.hull s := by
  apply Pool.Range.eq_of_toNat
  · rw [Pool.Range.toNat_first_hull]
    exact (Nat.min_eq_right h).symm
  · rfl

/-- Joining swallows an entry that is not clear of the range. -/
theorem join_cons (hsr : ¬ s.Before r) (hrs : ¬ r.Before s) : Pool.join r (s :: hi) = Pool.join (r.hull s) hi := by
  rw [Pool.join, if_neg hsr, if_neg hrs]

/-- After the entry before it is swallowed, or left where it is, a range stands between the entries that lie before it
and those that start later, and is joined to these as it would have been to all. -/
theorem exists_absorbBefore (hm : Pool.Canonical ⟨m⟩) (hr : r.Nonempty) :
    ∃ lo hi q, absorbBefore m r = .ok (lo ++ hi, q) ∧ (∀ s ∈ lo, s.first.toNat < q.first.toNat) ∧
      (∀ s ∈ hi, q.first.toNat < s.first.toNat) ∧ Pool.Canonical ⟨hi⟩ ∧ Pool.join r m = lo ++ Pool.join q hi := by
  obtain ⟨front, hi, rfl, hfront, hhi⟩ := exists_split hm (r.first.toNat + 1)
  obtain ⟨hcanonical, hcanonicalHi, -⟩ := canonical_append.1 hm
  have hup : upTo? (front ++ hi) r.first = front.getLast? :=
    upTo?_append (fun s hs => Nat.le_of_lt_succ (hfront s hs)) hhi
  unfold absorbBefore
  rw [hup]
  obtain rfl | ⟨lo, s, rfl⟩ := List.eq_nil_or_concat' front
  · exact ⟨[], hi, r, rfl, by simp, hhi, hcanonicalHi, rfl⟩
  have hs : s.first.toNat ≤ r.first.toNat := Nat.le_of_lt_succ (hfront s (by simp))
  have hlos : ∀ x ∈ lo, x.Before s := fun x hx => (canonical_append.1 hcanonical).2.2 x hx s (by simp)
  have hlor : ∀ x ∈ lo, x.Before r := fun x hx => Nat.lt_of_lt_of_le (hlos x hx) hs
  simp only [List.getLast?_concat, add_w64 (by have := s.last.toNat_lt; omega : s.last.toNat + 1 < 0x10000000000000000),
    ok_bind]
  split
  · -- the entry meets or touches the range
    rename_i htouch
    have hlofirst : ∀ x ∈ lo, x.first.toNat < s.first.toNat := fun x hx =>
      first_lt_of_before (hcanonical.1 x (by simp [hx])) (hlos x hx)
    have hhifirst : ∀ x ∈ hi, s.first.toNat < x.first.toNat := fun x hx => Nat.lt_of_le_of_lt hs (hhi x hx)
    have hremove : remove (lo ++ [s] ++ hi) s.first = lo ++ hi := by
      rw [List.append_assoc, List.singleton_append]
      exact remove_append hlofirst hhifirst
    have hsr : ¬ s.Before r := Nat.not_lt.2 htouch
    have hrs : ¬ r.Before s := fun h => Nat.not_lt.2 hs (first_lt_of_before hr h)
    rw [hremove]
    refine ⟨lo, hi, reach s.first r s, rfl, hlofirst, hhifirst, hcanonicalHi, ?_⟩
    rw [List.append_assoc, join_append hlor, List.singleton_append, join_cons hsr hrs, reach_eq_hull_of_le hs]
  · -- there is a gap between them
    rename_i hgap
    have hbefore : ∀ x ∈ lo ++ [s], x.Before r :=
      List.forall_mem_append.2 ⟨hlor, List.forall_mem_singleton.2 (Nat.not_le.1 hgap)⟩
    refine ⟨lo ++ [s], hi, r, rfl, fun x hx => ?_, hhi, hcanonicalHi, join_append hbefore⟩
    exact first_lt_of_before (hcanonical.1 x hx) (hbefore x hx)

theorem absorbAll_of_none {q : Pool.Range} (h : absorb? m q = .ok none) : absorbAll m q = .ok (m, q) := by
  rw [absorbAll]
  split <;> simp_all

theorem absorbAll_of_some {m' : RangeMap} {q q' : Pool.Range} (h : absorb? m q = .ok (some (m', q'))) :
    absorbAll m q = absorbAll m' q' := by
  rw [absorbAll]
  split <;> simp_all

/-- The loop swallows what joining swallows. -/
theorem exists_absorbAll {q : Pool.Range} (hhi : Pool.Canonical ⟨hi⟩) (hlo : ∀ s ∈ lo, s.first.toNat < q.first.toNat)
    (hq : ∀ s ∈ hi, q.first.toNat < s.first.toNat) :
    ∃ rest q', absorbAll (lo ++ hi) q = .ok (lo ++ rest, q') ∧ Pool.join q hi = q' :: rest ∧
      q'.first.toNat = q.first.toNat ∧ ∀ s ∈ rest, q'.first.toNat < s.first.toNat := by
  have hfrom : from? (lo ++ hi) q.first = hi.head? := from?_append hlo fun s hs => Nat.le_of_lt (hq s hs)
  have hadd : add .w64 q.last.toNat 1 = .ok (q.last.toNat + 1) := add_w64 (by have := q.last.toNat_lt; omega)
  -- the range grows from round to round, but its first address stays, and with it the place where the map is looked
  -- into
  induction hi generalizing q with
  | nil =>
    have hnone : absorb? (lo ++ []) q = .ok none := by rw [absorb?, hfrom]; rfl
    exact ⟨[], q, absorbAll_of_none hnone, rfl, rfl, hq⟩
  | cons s hi ih =>
    obtain ⟨hs, hbefore, hcanonical⟩ := Pool.canonical_cons.1 hhi
    have hqs := hq s List.mem_cons_self
    have hsq : ¬ s.Before q := fun h => Nat.not_lt.2 (Nat.le_of_lt hqs) (first_lt_of_before hs h)
    by_cases hgap : q.last.toNat + 1 < s.first.toNat
    · have hnone : absorb? (lo ++ s :: hi) q = .ok none := by
        simp only [absorb?, hfrom, List.head?_cons, hadd, ok_bind, if_pos hgap]
        rfl
      refine ⟨s :: hi, q, absorbAll_of_none hnone, ?_, rfl, hq⟩
      rw [Pool.join, if_neg hsq, if_pos (Pool.Range.before_def.2 hgap)]
    · have hremove : remove (lo ++ s :: hi) s.first = lo ++ hi :=
        remove_append (fun x hx => Nat.lt_trans (hlo x hx) hqs) fun x hx => first_lt_of_before hs (hbefore x hx)
      have hsome : absorb? (lo ++ s :: hi) q = .ok (some (lo ++ hi, reach q.first q s)) := by
        simp only [absorb?, hfrom, List.head?_cons, hadd, ok_bind, if_neg hgap, hremove]
        rfl
      have hq' : ∀ x ∈ hi, q.first.toNat < x.first.toNat := fun x hx => hq x (List.mem_cons_of_mem s hx)
      obtain ⟨rest, q', hall, hjoin, hfirst, hrest⟩ := ih (q := reach q.first q s) hcanonical hlo hq'
        (from?_append hlo fun x hx => Nat.le_of_lt (hq' x hx))
        (add_w64 (by have := (reach q.first q s).last.toNat_lt; omega))
      refine ⟨rest, q', (absorbAll_of_some hsome).trans hall, ?_, hfirst, hrest⟩
      rw [join_cons hsq hgap, ← reach_eq_hull (Nat.le_of_lt hqs), hjoin]

/-- Adding a range does not trap, and its loop ends. -/
theorem insertRange_eq {p : Pool} (hp : p.Canonical) (first last : IPv4) :
    insertRange p.ranges first last = .ok (p.insertRange first last).ranges := by
  unfold insertRange Pool.insertRange
  by_cases hlt : last < first
  · have hle : ¬ first ≤ last := Nat.not_le_of_lt hlt
    rw [if_pos hlt, if_neg hle]
    rfl
  · have hle : first ≤ last := Nat.le_of_not_lt hlt
    obtain ⟨lo, hi, q, hbefore, hlo, hhi, hcanonical, hjoin⟩ := exists_absorbBefore (r := ⟨first, last⟩) hp hle
    obtain ⟨rest, q', hall, hjoin', hfirst, hrest⟩ := exists_absorbAll hcanonical hlo hhi
    have hinsert : insert (lo ++ rest) q' = lo ++ q' :: rest := insert_append (fun s hs => hfirst ▸ hlo s hs) hrest
    simp only [if_neg hlt, if_pos hle, hbefore, ok_bind, hall, hinsert, hjoin, hjoin']
    rfl

end Adding

/-! ## Removing does what it should -/

section Removing

variable {m lo hi : RangeMap} {r s : Pool.Range} {first last : IPv4}

theorem meets_span : r.Meets ⟨first, last⟩ ↔ r.first.toNat ≤ last.toNat ∧ first.toNat ≤ r.last.toNat := Iff.rfl

theorem putBelow_eq (hlo : ∀ s ∈ lo, s.first.toNat < r.first.toNat) (hhi : ∀ s ∈ hi, r.first.toNat < s.first.toNat) :
    putBelow (lo ++ hi) r first = .ok (lo ++ (if r.first < first then [⟨r.first, first.pred⟩] else []) ++ hi) := by
  unfold putBelow
  by_cases hlt : r.first < first
  · have hpos : r.first.toNat < first.toNat := hlt
    have hinsert : insert (lo ++ hi) ⟨r.first, first.pred⟩ = lo ++ ⟨r.first, first.pred⟩ :: hi := insert_append hlo hhi
    rw [if_pos hlt, if_pos hlt, sub_eq (by omega), ok_bind, ← IPv4.pred, hinsert, List.append_assoc]
    rfl
  · rw [if_neg hlt, if_neg hlt, List.append_nil]
    rfl

theorem first_of_below (hs : s ∈ if r.first < first then [(⟨r.first, first.pred⟩ : Pool.Range)] else []) :
    s.first = r.first := by
  split at hs
  · rw [List.mem_singleton.1 hs]
  · cases hs

theorem putAbove_eq (hlo : ∀ s ∈ lo, s.first.toNat ≤ last.toNat) (hhi : ∀ s ∈ hi, r.last.toNat < s.first.toNat) :
    putAbove (lo ++ hi) r last = .ok (lo ++ (if last < r.last then [⟨last.succ, r.last⟩] else []) ++ hi) := by
  unfold putAbove
  by_cases hlt : last < r.last
  · have hless : last.toNat < r.last.toNat := hlt
    have hbound := r.last.toNat_lt
    have hsucc : last.succ.toNat = last.toNat + 1 := IPv4.toNat_succ hlt
    have hinsert : insert (lo ++ hi) ⟨last.succ, r.last⟩ = lo ++ ⟨last.succ, r.last⟩ :: hi := by
      refine insert_append (fun s hs => ?_) fun s hs => ?_
      · have := hlo s hs
        simp only
        omega
      · have := hhi s hs
        simp only
        omega
    rw [if_pos hlt, if_pos hlt, add_w32 (by omega), ok_bind, ← IPv4.succ, hinsert, List.append_assoc]
    rfl
  · rw [if_neg hlt, if_neg hlt, List.append_nil]
    rfl

/-- An entry that has some of the addresses leaves what it has of others, in its place. -/
theorem cut_eq (hne : first ≤ last) (hr : r.Nonempty) (hmeets : r.Meets ⟨first, last⟩)
    (hlo : ∀ s ∈ lo, s.first.toNat < r.first.toNat) (hhi : ∀ s ∈ hi, r.last.toNat < s.first.toNat) {n : Nat}
    (hn : n + r.common ⟨first, last⟩ ≤ 0x100000000) :
    cut first last (n, lo ++ r :: hi) r = .ok (n + r.common ⟨first, last⟩, lo ++ r.minus ⟨first, last⟩ ++ hi) := by
  rw [Pool.Range.nonempty_def] at hr
  have hspan := meets_span.1 hmeets
  have hshared : (r.overlap ⟨first, last⟩).first.toNat ≤ (r.overlap ⟨first, last⟩).last.toNat := by
    rw [Pool.Range.toNat_first_overlap, Pool.Range.toNat_last_overlap]
    rw [IPv4.le_def] at hne
    simp only
    omega
  have hcommon : r.common ⟨first, last⟩
      = (r.overlap ⟨first, last⟩).last.toNat - (r.overlap ⟨first, last⟩).first.toNat + 1 := by
    rw [Pool.Range.common, if_pos hmeets, Pool.Range.size]
  rw [hcommon] at hn ⊢
  have hhifirst : ∀ s ∈ hi, r.first.toNat < s.first.toNat := fun s hs => Nat.lt_of_le_of_lt hr (hhi s hs)
  have hremove : remove (lo ++ r :: hi) r.first = lo ++ hi := remove_append hlo hhifirst
  have hpieces : ∀ s ∈ lo ++ (if r.first < first then [⟨r.first, first.pred⟩] else []), s.first.toNat ≤ last.toNat := by
    intro s hs
    rcases List.mem_append.1 hs with hs | hs
    · exact Nat.le_of_lt (Nat.lt_of_lt_of_le (hlo s hs) hspan.1)
    · rw [first_of_below hs]
      exact hspan.1
  have hminus : r.minus ⟨first, last⟩ = (if r.first < first then [⟨r.first, first.pred⟩] else [])
      ++ (if last < r.last then [⟨last.succ, r.last⟩] else []) := by
    rw [Pool.Range.minus, if_pos hmeets, Pool.Range.without]
  unfold cut
  simp only [sub_eq hshared, ok_bind]
  rw [add_w64 (by omega), ok_bind, add_w64 (by omega), ok_bind, hremove, putBelow_eq hlo hhifirst, ok_bind,
    putAbove_eq hpieces hhi, ok_bind, hminus, List.append_assoc lo]
  rfl

/-- Cutting the addresses out of all entries that have some, one after the other. -/
theorem foldlM_cut (hne : first ≤ last) (hm : Pool.Canonical ⟨m⟩)
    (hlo : ∀ s ∈ lo, ∀ r ∈ m, s.first.toNat < r.first.toNat) {n : Nat}
    (hn : n + Pool.countRange ⟨m⟩ first last ≤ 0x100000000) :
    (m.filter (·.Meets ⟨first, last⟩)).foldlM (cut first last) (n, lo ++ m)
      = .ok (n + Pool.countRange ⟨m⟩ first last, lo ++ m.flatMap (·.minus ⟨first, last⟩)) := by
  -- what an entry leaves joins the entries before it, so that the rest of the list is still the rest of the map
  induction m generalizing lo n with
  | nil =>
    rw [Pool.countRange, if_pos hne]
    rfl
  | cons r m ih =>
    obtain ⟨hr, hbefore, hcanonical⟩ := Pool.canonical_cons.1 hm
    have hlor : ∀ s ∈ lo, s.first.toNat < r.first.toNat := fun s hs => hlo s hs r List.mem_cons_self
    have hrm : ∀ s ∈ m, r.last.toNat < s.first.toNat := fun s hs => last_lt_of_before (hbefore s hs)
    rw [Pool.countRange_cons hne] at hn ⊢
    have hpieces : ∀ s ∈ lo ++ r.minus ⟨first, last⟩, ∀ x ∈ m, s.first.toNat < x.first.toNat := fun s hs x hx => by
      have hrx := hrm x hx
      rcases List.mem_append.1 hs with hs | hs
      · have := hlo s hs x (List.mem_cons_of_mem r hx)
        omega
      · obtain ⟨hsne, -, hsr⟩ := Pool.Range.minus_bounds hr hs
        rw [Pool.Range.nonempty_def] at hsne
        omega
    have hrest := ih hcanonical hpieces (n := n + r.common ⟨first, last⟩) (by omega)
    rw [List.flatMap_cons, ← List.append_assoc, ← Nat.add_assoc]
    by_cases hmeets : r.Meets ⟨first, last⟩
    · rw [List.filter_cons, if_pos (decide_eq_true hmeets), List.foldlM_cons,
        cut_eq hne hr hmeets hlor hrm (by omega), ok_bind, hrest]
    · have hnone : r.common ⟨first, last⟩ = 0 := if_neg hmeets
      have hwhole : r.minus ⟨first, last⟩ = [r] := if_neg hmeets
      rw [hwhole, hnone, Nat.add_zero, List.append_assoc, List.singleton_append] at hrest
      rw [List.filter_cons, if_neg (by simpa using hmeets), hwhole, hnone, Nat.add_zero, hrest]

/-- The entry before the first address, if it reaches that far, and the entries from there on are those
that have some of the addresses. -/
theorem meeting_eq (hm : Pool.Canonical ⟨m⟩) (hne : first ≤ last) :
    (m.below? first).toList.filter (first ≤ ·.last) ++ m.filter (fun r => first ≤ r.first ∧ r.first ≤ last)
      = m.filter (·.Meets ⟨first, last⟩) := by
  obtain ⟨lo, hi, rfl, hlo, hhi⟩ := exists_split hm first.toNat
  obtain ⟨hcanonicalLo, hcanonicalHi, -⟩ := canonical_append.1 hm
  have hnone : lo.filter (fun r => first ≤ r.first ∧ r.first ≤ last) = [] := List.filter_eq_nil_iff.2 fun r hr => by
    have := hlo r hr
    simp only [IPv4.le_def, decide_eq_true_eq]
    omega
  have hsame : hi.filter (fun r => first ≤ r.first ∧ r.first ≤ last) = hi.filter (·.Meets ⟨first, last⟩) := by
    refine List.filter_congr fun r hr => ?_
    have := hhi r hr
    have := Pool.Range.nonempty_def.1 (hcanonicalHi.1 r hr)
    simp only [IPv4.le_def, meets_span, decide_eq_decide]
    omega
  rw [below?_append hlo hhi, List.filter_append, List.filter_append, hnone, hsame, List.nil_append]
  congr 1
  obtain rfl | ⟨front, s, rfl⟩ := List.eq_nil_or_concat' lo
  · rfl
  · have hs := hlo s (by simp)
    have hfront : front.filter (·.Meets ⟨first, last⟩) = [] := List.filter_eq_nil_iff.2 fun r hr => by
      have hrs := (canonical_append.1 hcanonicalLo).2.2 r hr s (by simp)
      rw [Pool.Range.before_def] at hrs
      simp only [meets_span, decide_eq_true_eq]
      omega
    have hmeets : s.Meets ⟨first, last⟩ ↔ first ≤ s.last := by
      rw [IPv4.le_def] at hne ⊢
      rw [meets_span]
      omega
    rw [List.getLast?_concat, Option.toList_some, List.filter_append, hfront, List.nil_append]
    simp only [List.filter_cons, List.filter_nil, hmeets]

/-- Removing a range does not trap, and says how many members it had. -/
theorem eraseRange_eq {p : Pool} (hp : p.Canonical) (first last : IPv4) :
    eraseRange p.ranges first last = .ok (p.countRange first last, (p.eraseRange first last).ranges) := by
  unfold eraseRange Pool.eraseRange
  by_cases hlt : last < first
  · have hle : ¬ first ≤ last := Nat.not_le_of_lt hlt
    rw [if_pos hlt, if_neg hle, Pool.countRange, if_neg hle]
    rfl
  · have hle : first ≤ last := Nat.le_of_not_lt hlt
    have hn : 0 + Pool.countRange ⟨p.ranges⟩ first last ≤ 0x100000000 := by
      rw [Nat.zero_add, Pool.countRange_eq_ncard hp]
      exact Pool.ncard_le _
    have hnone : ∀ s ∈ ([] : RangeMap), ∀ r ∈ p.ranges, s.first.toNat < r.first.toNat := by simp
    have hcut := foldlM_cut hle hp hnone hn
    rw [if_neg hlt, if_pos hle, between, assert_eq hle, ok_bind]
    show List.foldlM _ _ (_ ++ List.filter _ _) = _
    rw [meeting_eq hp hle]
    simpa using hcut

/-- Removing the lowest address does not trap. -/
theorem popLowest_eq {p : Pool} (hp : p.Canonical) :
    popLowest p.ranges = .ok (p.popLowest?.map (·.1), ((p.popLowest?.map (·.2)).getD p).ranges) := by
  obtain ⟨_ | ⟨r, rest⟩⟩ := p
  · rfl
  · obtain ⟨-, hbefore, -⟩ := Pool.canonical_cons.1 hp
    unfold popLowest Pool.popLowest?
    by_cases hlt : r.first < r.last
    · have hless : r.first.toNat < r.last.toNat := hlt
      have hbound := r.last.toNat_lt
      have hsucc : r.first.succ.toNat = r.first.toNat + 1 := IPv4.toNat_succ hlt
      have habove : ∀ s ∈ rest, r.first.succ.toNat < s.first.toNat := by
        intro s hs
        have hrs := last_lt_of_before (hbefore s hs)
        omega
      have hinsert : insert rest ⟨r.first.succ, r.last⟩ = ⟨r.first.succ, r.last⟩ :: rest := insert_front habove
      simp only [if_pos hlt, add_w32 (by omega : r.first.toNat + 1 < 0x100000000), ok_bind]
      rw [← IPv4.succ, hinsert]
      rfl
    · simp only [if_neg hlt]
      rfl

end Removing

/-! ## Looking sees what is there -/

/-- The last range that starts no later is the only one that has to be looked at. -/
theorem meetsRange_eq {p : Pool} (hp : p.Canonical) (first last : IPv4) :
    meetsRange p.ranges first last = p.meetsRange first last := by
  obtain ⟨m⟩ := p
  rw [Bool.eq_iff_iff, Pool.meetsRange_iff hp]
  unfold meetsRange
  split
  · rename_i hlt
    simp only [Bool.false_eq_true, false_iff]
    rintro ⟨a, -, hf, hl⟩
    rw [IPv4.lt_def] at hlt
    rw [IPv4.le_def] at hf hl
    omega
  rename_i hle
  rw [IPv4.lt_def] at hle
  obtain ⟨lo, hi, rfl, hlo, hhi⟩ := exists_split hp (last.toNat + 1)
  obtain ⟨hcanonicalLo, -, -⟩ := canonical_append.1 hp
  rw [upTo?_append (fun s hs => Nat.le_of_lt_succ (hlo s hs)) hhi]
  obtain rfl | ⟨front, s, rfl⟩ := List.eq_nil_or_concat' lo
  · simp only [List.getLast?_nil, Option.any_none, Bool.false_eq_true, false_iff]
    rintro ⟨a, ⟨r, hr, ha⟩, -, hl⟩
    have := hhi r hr
    rw [Pool.Range.mem_def] at ha
    rw [IPv4.le_def] at hl
    omega
  have hs := hlo s (by simp)
  have hsne := Pool.Range.nonempty_def.1 (hcanonicalLo.1 s (by simp))
  rw [List.getLast?_concat, Option.any_some, decide_eq_true_eq]
  constructor
  · intro hreach
    rw [IPv4.le_def] at hreach
    -- the later of the two first addresses is in both ranges
    by_cases hfirst : first.toNat ≤ s.first.toNat
    · exact ⟨s.first, ⟨s, by simp, Pool.Range.mem_def.2 ⟨Nat.le_refl _, hsne⟩⟩, hfirst, Nat.le_of_lt_succ hs⟩
    · exact ⟨first, ⟨s, by simp, Pool.Range.mem_def.2 ⟨by omega, hreach⟩⟩, Nat.le_refl _, Nat.le_of_not_lt hle⟩
  · rintro ⟨a, ⟨r, hr, ha⟩, hf, hl⟩
    rw [Pool.Range.mem_def] at ha
    rw [IPv4.le_def] at hf hl ⊢
    rcases List.mem_append.1 hr with hr | hr
    · rcases List.mem_append.1 hr with hr | hr
      · have hrs := (canonical_append.1 hcanonicalLo).2.2 r hr s (by simp)
        rw [Pool.Range.before_def] at hrs
        omega
      · rw [← List.mem_singleton.1 hr]
        omega
    · have := hhi r hr
      omega

theorem foldlM_size {m : RangeMap} (hm : Pool.Canonical ⟨m⟩) {n : Nat} (hn : n + Pool.size ⟨m⟩ ≤ 0x100000000) :
    m.foldlM (fun n r => do
      let distance ← sub r.last.toNat r.first.toNat
      let size ← add .w64 distance 1
      add .w64 n size) n = .ok (n + Pool.size ⟨m⟩) := by
  induction m generalizing n with
  | nil => rfl
  | cons r m ih =>
    obtain ⟨hr, -, hcanonical⟩ := Pool.canonical_cons.1 hm
    rw [Pool.size_cons] at hn ⊢
    have hsize : r.size = r.last.toNat - r.first.toNat + 1 := rfl
    have hbound := r.last.toNat_lt
    rw [List.foldlM_cons, sub_eq hr, ok_bind, add_w64 (by omega), ok_bind, ← hsize, add_w64 (by omega), ok_bind,
      ih hcanonical (by omega), Nat.add_assoc]

/-- Counting does not trap. -/
theorem size_eq {p : Pool} (hp : p.Canonical) : size p.ranges = .ok p.size := by
  have hn : 0 + Pool.size ⟨p.ranges⟩ ≤ 0x100000000 := by
    rw [Nat.zero_add, Pool.size_eq_ncard hp]
    exact Pool.ncard_le _
  rw [size, foldlM_size hp hn, Nat.zero_add]

end RangeMap

end Nat64.Machine
