import Nat64.Proofs.Machine.RangeMap

/-!
# Pools in use

Whatever is asked of a pool, in whatever order, it answers as the set of its members would, and stays canonical. So does
the machine, which keeps its ranges in an ordered map and traps where a number leaves its width.

* `Pool.respond`, `Pool.run`: requests and answers.
* `Pool.Dialogue`: what a plain set of addresses has to say to the same requests.
* `Pool.respond_answers`, `Pool.dialogue_run`: one request, and any number of them.
* `Machine.RangeMap.Rounds`: the loop of an addition, round by round.
* `Pool.run_refines`: pools, sets and the machine agree after every run.
-/

namespace Nat64

namespace Pool

/-! ## Requests and answers -/

/-- What may be asked of a pool. -/
inductive Request where
  | insert (a : IPv4)
  | insertRange (first last : IPv4)
  | erase (a : IPv4)
  | eraseRange (first last : IPv4)
  | popLowest

/-- What a pool answers. -/
inductive Answer where
  | done
  | erased (found : Bool)
  | count (n : Nat)
  | lowest (a : Option IPv4)

/-- The answer to a request, and the pool that it leaves. -/
def respond (p : Pool) : Request → Answer × Pool
  | .insert a => (.done, p.insert a)
  | .insertRange first last => (.done, p.insertRange first last)
  | .erase a => (.erased (p.countRange a a == 1), p.erase a)
  | .eraseRange first last => (.count (p.countRange first last), p.eraseRange first last)
  | .popLowest => (.lowest (p.popLowest?.map (·.1)), (p.popLowest?.map (·.2)).getD p)

/-- The answers to requests in order, and the pool that they leave. -/
def run (p : Pool) : List Request → List Answer × Pool
  | [] => ([], p)
  | request :: rest =>
    (((p.respond request).1 :: ((p.respond request).2.run rest).1), ((p.respond request).2.run rest).2)

/-- The addresses from one to another. -/
def span (first last : IPv4) : Set IPv4 := {a | first ≤ a ∧ a ≤ last}

/-- The set that a request makes of another. -/
def Request.on (S : Set IPv4) : Request → Set IPv4
  | .insert a => S ∪ {a}
  | .insertRange first last => S ∪ span first last
  | .erase a => S \ {a}
  | .eraseRange first last => S \ span first last
  | .popLowest => S \ {a | IsLeast S a}

/-- What a set of addresses has to say to a request. -/
inductive Answers (S : Set IPv4) : Request → Answer → Prop
  | insert {a : IPv4} : Answers S (.insert a) .done
  | insertRange {first last : IPv4} : Answers S (.insertRange first last) .done
  | found {a : IPv4} (h : a ∈ S) : Answers S (.erase a) (.erased true)
  | missing {a : IPv4} (h : a ∉ S) : Answers S (.erase a) (.erased false)
  | count {first last : IPv4} : Answers S (.eraseRange first last) (.count (S ∩ span first last).ncard)
  | lowest {a : IPv4} (h : IsLeast S a) : Answers S .popLowest (.lowest (some a))
  | exhausted (h : S = ∅) : Answers S .popLowest (.lowest none)

/-- What a set of addresses has to say to requests in order, and the set that they make of it. -/
inductive Dialogue : Set IPv4 → List Request → List Answer → Set IPv4 → Prop
  | nil {S : Set IPv4} : Dialogue S [] [] S
  | cons {S T : Set IPv4} {request : Request} {answer : Answer} {requests : List Request} {answers : List Answer}
      (h : Answers S request answer) (hrest : Dialogue (request.on S) requests answers T) :
      Dialogue S (request :: requests) (answer :: answers) T

/-! ## Pools answer as sets -/

variable {p : Pool}

/-- The members of a pool. -/
def members (p : Pool) : Set IPv4 := {a | a ∈ p}

theorem members_empty : members ∅ = ∅ := Set.eq_empty_of_forall_notMem fun _ => not_mem_nil

/-- Every request keeps the canonical form. -/
theorem canonical_respond (hp : p.Canonical) (request : Request) : (p.respond request).2.Canonical := by
  cases request with
  | insert a => exact canonical_insert hp
  | insertRange first last => exact canonical_insertRange hp
  | erase a => exact canonical_erase hp
  | eraseRange first last => exact canonical_eraseRange hp
  | popLowest =>
    show ((p.popLowest?.map (·.2)).getD p).Canonical
    cases hpop : p.popLowest? with
    | none => exact hp
    | some found => exact (popLowest?_eq_some hp hpop).1

/-- The lowest address is the least member. -/
theorem isLeast_popLowest? (hp : p.Canonical) {a : IPv4} {q : Pool} (h : p.popLowest? = some (a, q)) :
    IsLeast p.members a := by
  obtain ⟨-, hmem, hle, -⟩ := popLowest?_eq_some hp h
  exact ⟨hmem, hle⟩

theorem eq_of_isLeast {S : Set IPv4} {a b : IPv4} (ha : IsLeast S a) (hb : IsLeast S b) : a = b :=
  IPv4.toNat_inj.1 (Nat.le_antisymm (ha.2 hb.1) (hb.2 ha.1))

/-- Every request makes of the members what it makes of a set. -/
theorem members_respond (hp : p.Canonical) (request : Request) :
    (p.respond request).2.members = request.on p.members := by
  ext b
  cases request with
  | insert a => exact mem_insert hp
  | insertRange first last => exact mem_insertRange hp
  | erase a => exact mem_erase
  | eraseRange first last => exact mem_eraseRange
  | popLowest =>
    show b ∈ (p.popLowest?.map (·.2)).getD p ↔ b ∈ p ∧ ¬ IsLeast p.members b
    cases hpop : p.popLowest? with
    | none =>
      have hempty := (popLowest?_eq_none hp).1 hpop b
      simp [hempty]
    | some found =>
      have hleast := isLeast_popLowest? hp hpop
      obtain ⟨-, -, -, hq⟩ := popLowest?_eq_some hp hpop
      rw [Option.map_some, Option.getD_some, hq b]
      refine and_congr Iff.rfl (not_congr ⟨?_, fun hb => eq_of_isLeast hb hleast⟩)
      rintro rfl
      exact hleast

/-- Every request is answered as the set of the members would. -/
theorem respond_answers (hp : p.Canonical) (request : Request) : Answers p.members request (p.respond request).1 := by
  cases request with
  | insert a => exact .insert
  | insertRange first last => exact .insertRange
  | erase a =>
    by_cases ha : a ∈ p
    · have hone : (p.countRange a a == 1) = true := beq_iff_eq.2 ((countRange_self hp).2 ha)
      show Answers _ _ (.erased _)
      rw [hone]
      exact .found ha
    · have hone : (p.countRange a a == 1) = false := beq_eq_false_iff_ne.2 fun h => ha ((countRange_self hp).1 h)
      show Answers _ _ (.erased _)
      rw [hone]
      exact .missing ha
  | eraseRange first last =>
    show Answers _ _ (.count _)
    rw [countRange_eq_ncard hp]
    exact .count
  | popLowest =>
    show Answers _ _ (.lowest (p.popLowest?.map (·.1)))
    cases hpop : p.popLowest? with
    | none => exact .exhausted (Set.eq_empty_of_forall_notMem ((popLowest?_eq_none hp).1 hpop))
    | some found => exact .lowest (isLeast_popLowest? hp hpop)

theorem canonical_run (hp : p.Canonical) (requests : List Request) : (p.run requests).2.Canonical := by
  induction requests generalizing p with
  | nil => exact hp
  | cons request requests ih => exact ih (canonical_respond hp request)

theorem dialogue_run (hp : p.Canonical) (requests : List Request) :
    Dialogue p.members requests (p.run requests).1 (p.run requests).2.members := by
  induction requests generalizing p with
  | nil => exact .nil
  | cons request requests ih =>
    have hrest := ih (canonical_respond hp request)
    rw [members_respond hp request] at hrest
    exact .cons (respond_answers hp request) hrest

end Pool

/-! ## The machine answers as well -/

namespace Machine.RangeMap

open Pool (Request Answer)

variable {m : RangeMap} {r : Pool.Range}

/-- Swallowing takes so many rounds and ends there. -/
inductive Rounds : Nat → RangeMap → Pool.Range → RangeMap × Pool.Range → Prop
  | stop {m : RangeMap} {r : Pool.Range} (h : absorb? m r = .ok none) : Rounds 0 m r (m, r)
  | round {m m' : RangeMap} {r r' : Pool.Range} {n : Nat} {result : RangeMap × Pool.Range}
      (h : absorb? m r = .ok (some (m', r'))) (hrest : Rounds n m' r' result) : Rounds (n + 1) m r result

/-- A round does not trap on any map. -/
theorem exists_absorb? (m : RangeMap) (r : Pool.Range) : ∃ next, absorb? m r = .ok next := by
  unfold absorb?
  rw [add_w64 (by have := r.last.toNat_lt; omega)]
  cases m.from? r.first with
  | none => exact ⟨_, rfl⟩
  | some s =>
    simp only [ok_bind]
    split <;> exact ⟨_, rfl⟩

/-- The loop ends on every map, after no more rounds than there are entries. -/
theorem exists_rounds (m : RangeMap) (r : Pool.Range) :
    ∃ n ≤ m.length, ∃ result, Rounds n m r result ∧ absorbAll m r = .ok result := by
  obtain ⟨next, hnext⟩ := exists_absorb? m r
  cases next with
  | none => exact ⟨0, Nat.zero_le _, _, .stop hnext, absorbAll_of_none hnext⟩
  | some next =>
    obtain ⟨m', r'⟩ := next
    have hlt := length_absorb? hnext
    obtain ⟨n, hn, result, hrounds, hall⟩ := exists_rounds m' r'
    exact ⟨n + 1, by omega, result, .round hnext hrounds, (absorbAll_of_some hnext).trans hall⟩
termination_by m.length

/-- The answer to a request, and the map that it leaves. -/
def respond (m : RangeMap) : Request → Run (Answer × RangeMap)
  | .insert a => return (.done, ← m.insertRange a a)
  | .insertRange first last => return (.done, ← m.insertRange first last)
  | .erase a => do
    let (n, m) ← m.eraseRange a a
    return (.erased (n == 1), m)
  | .eraseRange first last => do
    let (n, m) ← m.eraseRange first last
    return (.count n, m)
  | .popLowest => do
    let (a, m) ← m.popLowest
    return (.lowest a, m)

/-- The answers to requests in order, and the map that they leave. -/
def run (m : RangeMap) : List Request → Run (List Answer × RangeMap)
  | [] => return ([], m)
  | request :: rest => do
    let (answer, m) ← m.respond request
    let (answers, m) ← run m rest
    return (answer :: answers, m)

theorem respond_eq {p : Pool} (hp : p.Canonical) (request : Request) :
    respond p.ranges request = .ok ((p.respond request).1, (p.respond request).2.ranges) := by
  cases request with
  | insert a =>
    rw [respond, insertRange_eq hp]
    rfl
  | insertRange first last =>
    rw [respond, insertRange_eq hp]
    rfl
  | erase a =>
    rw [respond, eraseRange_eq hp]
    rfl
  | eraseRange first last =>
    rw [respond, eraseRange_eq hp]
    rfl
  | popLowest =>
    rw [respond, popLowest_eq hp]
    rfl

theorem run_eq {p : Pool} (hp : p.Canonical) (requests : List Request) :
    run p.ranges requests = .ok ((p.run requests).1, (p.run requests).2.ranges) := by
  induction requests generalizing p with
  | nil => rfl
  | cons request requests ih =>
    rw [run, respond_eq hp, ok_bind]
    simp only
    rw [ih (Pool.canonical_respond hp request)]
    rfl

end Machine.RangeMap

/-- After every run from the empty pool: all answers were those of a set of addresses that starts out empty, and the
members are what that set has become; the ranges are in the one form that the set has; what is looked at is what is
there; and the machine has come as far without a trap. Its loop ends on whatever map it starts. -/
theorem Pool.run_refines (requests : List Request) :
    let answers := (run ∅ requests).1
    let p := (run ∅ requests).2
    Dialogue ∅ requests answers {a | a ∈ p} ∧
    ((∀ r ∈ p.ranges, r.first ≤ r.last) ∧ p.ranges.Pairwise fun r s => r.last.toNat + 1 < s.first.toNat) ∧
    (∀ others, {a | a ∈ (run ∅ others).2} = {a | a ∈ p} → (run ∅ others).2.ranges = p.ranges) ∧
    (∀ first last, p.meetsRange first last = true ↔ ∃ a ∈ p, first ≤ a ∧ a ≤ last) ∧
    p.size = {a | a ∈ p}.ncard ∧
    Machine.RangeMap.run [] requests = .ok (answers, p.ranges) ∧
    (∀ first last, Machine.RangeMap.meetsRange p.ranges first last = p.meetsRange first last) ∧
    Machine.RangeMap.size p.ranges = .ok p.size ∧
    ∀ m r, ∃ n ≤ m.length, ∃ result, Machine.RangeMap.Rounds n m r result ∧
      Machine.RangeMap.absorbAll m r = .ok result := by
  intro answers p
  have hp : p.Canonical := canonical_run canonical_empty requests
  refine ⟨?_, hp, fun others hsame => ?_, fun first last => meetsRange_iff hp, size_eq_ncard hp,
    Machine.RangeMap.run_eq canonical_empty requests, Machine.RangeMap.meetsRange_eq hp, Machine.RangeMap.size_eq hp,
    Machine.RangeMap.exists_rounds⟩
  · have hdialogue := dialogue_run canonical_empty requests
    rwa [members_empty] at hdialogue
  · have hothers : (run ∅ others).2.Canonical := canonical_run canonical_empty others
    rw [eq_of_mem_iff hothers hp (Set.ext_iff.1 hsame)]

/-- Neither end of the address space is passed. -/
example :
    let low := IPv4.ofNat 0
    let high := IPv4.ofNat 0xffffffff
    Pool.run ∅ [.insert high, .insert low, .popLowest, .insertRange low high, .eraseRange low.succ high.pred]
      = ([.done, .done, .lowest (some low), .done, .count 0xfffffffe], ⟨[⟨low, low⟩, ⟨high, high⟩]⟩) := rfl

end Nat64
