import Mathlib.Data.List.Induction
import Nat64.Proofs.Checksum.Verification
import Nat64.Proofs.Machine.Checksum

/-!
# Checksums of whole streams

An accumulator is fed sums computed elsewhere, bytes and lists of segments, in any order. What it holds after a run is
in the class of the exact sum of all it was fed (`Accumulator.reads_run`), so where the stream was cut does not matter.
The machine asserts that a sum arrives on a word boundary; then nothing in a run leaves 32 bits.

* `Machine.run_eq`: the machine follows a run that keeps to word boundaries.
* `representative_of_same`: the word of a class, as a number.
* `Machine.run_total`: the result of a run, from the exact sum alone.
-/

namespace Nat64

namespace Checksum

/-- What an accumulator is fed. -/
inductive Step where
  | sum (n : UInt32)
  | bytes (data : Bytes)
  | segments (parts : List Bytes)
deriving Repr

/-- The sum that a step brings along. -/
def Step.presummed : Step → Nat
  | .sum n => n.toNat
  | .bytes _ => 0
  | .segments _ => 0

/-- The bytes that a step adds to the stream. -/
def Step.data : Step → Bytes
  | .sum _ => []
  | .bytes data => data
  | .segments parts => parts.flatten

/-- All sums that were computed elsewhere, added up. -/
def presummed : List Step → Nat
  | [] => 0
  | step :: rest => step.presummed + presummed rest

/-- The bytes of all steps, one after the other. -/
def stream (steps : List Step) : Bytes := steps.flatMap Step.data

/-- The sum of everything that is fed, with nothing carried. -/
def exactTotal (steps : List Step) : Nat := presummed steps + exactSum (stream steps)

/-- No sum comes after an odd number of bytes. -/
def Aligned (steps : List Step) : Prop :=
  ∀ before n after, steps = before ++ .sum n :: after → (stream before).length % 2 = 0

theorem presummed_concat (steps : List Step) (step : Step) :
    presummed (steps ++ [step]) = presummed steps + step.presummed := by
  induction steps with
  | nil => exact Nat.add_comm _ _
  | cons first rest ih => rw [List.cons_append, presummed, ih, presummed, Nat.add_assoc]

theorem stream_concat (steps : List Step) (step : Step) : stream (steps ++ [step]) = stream steps ++ step.data := by
  rw [stream, List.flatMap_append, List.flatMap_singleton, stream]

theorem Aligned.of_concat {steps : List Step} {step : Step} (h : Aligned (steps ++ [step])) : Aligned steps :=
  fun before n after heq => h before n (after ++ [step]) (by rw [heq, List.append_assoc, List.cons_append])

theorem Aligned.even {steps : List Step} {n : UInt32} (h : Aligned (steps ++ [.sum n])) :
    (stream steps).length % 2 = 0 := h steps n [] rfl

/-! ## Runs of the accumulator -/

namespace Accumulator

variable {acc : Accumulator} {front : Nat} {seen : Bytes}

/-- The accumulator after a step. -/
def step (acc : Accumulator) : Step → Accumulator
  | .sum n => acc.addSum n.toNat
  | .bytes data => acc.addBytes data
  | .segments parts => acc.addSegments parts

/-- The accumulator after some steps. -/
def run (steps : List Step) : Accumulator := steps.foldl step {}

theorem Reads.step (h : acc.Reads front seen) (s : Step) :
    (acc.step s).Reads (front + s.presummed) (seen ++ s.data) := by
  cases s with
  | sum n =>
    rw [Step.data, List.append_nil]
    exact h.addSum n.toNat_lt
  | bytes data => exact h.addBytes data
  | segments parts => exact h.addSegments parts

theorem run_concat (steps : List Step) (step : Step) : run (steps ++ [step]) = (run steps).step step := by
  rw [run, List.foldl_append, run]
  rfl

/-- A run has read the whole stream, wherever it was cut. -/
theorem reads_run (steps : List Step) : (run steps).Reads (presummed steps) (stream steps) := by
  induction steps using List.reverseRecOn with
  | nil => exact reads_nil
  | append_singleton steps step ih =>
    rw [run_concat, presummed_concat, stream_concat]
    exact ih.step step

theorem same_total_run (steps : List Step) :
    Same (run steps).total.toNat (exactTotal steps) := (reads_run steps).same_total

end Accumulator

/-- The word of a class: `0` for nothing but zeros, else the representative from `1` to `65535`. -/
theorem representative_of_same {v : UInt16} {n : Nat} (h : Same v.toNat n) :
    (n = 0 → v = 0) ∧ (n ≠ 0 → ∀ k, (1 ≤ k ∧ k ≤ 65535 ∧ k % 65535 = n % 65535) ↔ k = v.toNat) := by
  have hv := v.toNat_lt
  obtain ⟨hmod, hzero⟩ := h
  refine ⟨fun hn => UInt16.toNat_inj.1 (hzero.2 hn), fun hn k => ⟨fun hk => ?_, fun hk => ?_⟩⟩ <;> omega

/-- A buffer in segments has the checksum of the buffer. -/
theorem ofSegments_eq (segments : List Bytes) : ofSegments segments = ofBytes segments.flatten :=
  standsFor_nil.checksum_addSegments segments

end Checksum

namespace Machine

open Checksum

/-- The accumulator after a step, if no sum leaves its width. -/
def step (acc : Accumulator) : Step → Run Accumulator
  | .sum n => addSum acc n.toNat
  | .bytes data => addBytes acc data
  | .segments parts => addSegments acc parts

/-- Feeds the steps to a new accumulator. -/
def run (steps : List Step) : Run Accumulator := steps.foldlM step {}

theorem step_eq {acc : Accumulator} {front : Nat} {seen : Bytes} (h : acc.Reads front seen) {s : Step}
    (heven : ∀ n, s = .sum n → seen.length % 2 = 0) : step acc s = .ok (acc.step s) := by
  cases s with
  | sum n =>
    have hodd := h.odd_eq
    rw [heven n rfl] at hodd
    exact addSum_eq h hodd n.toNat_lt
  | bytes data => exact addBytes_eq h data
  | segments parts => exact addSegments_eq h parts

theorem run_eq {steps : List Step} (h : Aligned steps) : run steps = .ok (Accumulator.run steps) := by
  induction steps using List.reverseRecOn with
  | nil => rfl
  | append_singleton steps step ih =>
    have hstep := step_eq (Accumulator.reads_run steps) (s := step) (by rintro n rfl; exact h.even)
    rw [run, List.foldlM_append, ← run, ih h.of_concat, ok_bind, List.foldlM_cons, hstep, ok_bind,
      Accumulator.run_concat]
    rfl

theorem run_results {steps : List Step} (h : Aligned steps) :
    run steps = .ok (Accumulator.run steps) ∧ fold (Accumulator.run steps).sum = .ok (Accumulator.run steps).total
      ∧ finish (Accumulator.run steps) = .ok (~~~ (Accumulator.run steps).total) := by
  have hreads := Accumulator.reads_run steps
  have hlt := hreads.sum_lt
  exact ⟨run_eq h, fold_eq (by omega), finish_eq hreads⟩

/-- A run does not trap, and its result is a matter of the exact sum alone: not of where the stream was cut, nor of how
the sums came in between. -/
theorem run_total {steps : List Step} (h : Aligned steps) :
    ∃ acc total, run steps = .ok acc ∧ fold acc.sum = .ok total ∧ finish acc = .ok (~~~ total)
      ∧ (exactTotal steps = 0 → total = 0)
      ∧ (exactTotal steps ≠ 0 →
        ∀ v, (1 ≤ v ∧ v ≤ 65535 ∧ v % 65535 = exactTotal steps % 65535) ↔ v = total.toNat)
      ∧ (∀ other, Aligned other → presummed other = presummed steps → stream other = stream steps →
        ∃ acc', run other = .ok acc' ∧ fold acc'.sum = .ok total ∧ finish acc' = .ok (~~~ total))
      ∧ ∀ segments, (addSegments {} segments >>= finish) = .ok (ofSegments segments)
        ∧ Machine.ofBytes segments.flatten = .ok (ofSegments segments) := by
  obtain ⟨hzero, hunique⟩ := representative_of_same (Accumulator.same_total_run steps)
  obtain ⟨hrun, hfold, hfinish⟩ := run_results h
  refine ⟨_, _, hrun, hfold, hfinish, hzero, hunique, fun other hother hpresummed hstream => ?_, fun segments => ?_⟩
  · -- both totals are the one word in the class of the same exact sum
    obtain ⟨hrun', hfold', hfinish'⟩ := run_results hother
    have hsame : exactTotal other = exactTotal steps := by rw [exactTotal, hpresummed, hstream, exactTotal]
    have htotal :=
      eq_of_same ((Accumulator.same_total_run other).trans (hsame ▸ (Accumulator.same_total_run steps).symm))
    rw [htotal] at hfold' hfinish'
    exact ⟨_, hrun', hfold', hfinish'⟩
  · have hreads := Accumulator.reads_nil
    rw [addSegments_eq hreads, ok_bind, finish_eq (hreads.addSegments segments), ofBytes_eq, ← ofSegments_eq]
    exact ⟨rfl, rfl⟩

/-- Segments that end inside a word, empty ones, and a second sum where the first four bytes are over. -/
def sampleSteps : List Step :=
  [.sum 0xffffffff, .bytes [], .segments [[0x45], [], [0, 0xff]], .bytes [1], .sum 7, .segments [[0xfe]]]

theorem run_total_sample :
    Aligned sampleSteps ∧ ∃ acc total, run sampleSteps = .ok acc ∧ fold acc.sum = .ok total
      ∧ finish acc = .ok (~~~ total)
      ∧ (exactTotal sampleSteps = 0 → total = 0)
      ∧ (exactTotal sampleSteps ≠ 0 →
        ∀ v, (1 ≤ v ∧ v ≤ 65535 ∧ v % 65535 = exactTotal sampleSteps % 65535) ↔ v = total.toNat)
      ∧ (∀ other, Aligned other → presummed other = presummed sampleSteps → stream other = stream sampleSteps →
        ∃ acc', run other = .ok acc' ∧ fold acc'.sum = .ok total ∧ finish acc' = .ok (~~~ total))
      ∧ ∀ segments, (addSegments {} segments >>= finish) = .ok (ofSegments segments)
        ∧ Machine.ofBytes segments.flatten = .ok (ofSegments segments) := by
  have haligned : Aligned sampleSteps := by
    intro before n after heq
    unfold sampleSteps at heq
    rcases before with _ | ⟨_, _ | ⟨_, _ | ⟨_, _ | ⟨_, _ | ⟨_, _ | ⟨_, _⟩⟩⟩⟩⟩⟩ <;> try cases heq
    · rfl
    · rfl
    · exact absurd heq (by simp)
  exact ⟨haligned, run_total haligned⟩

end Machine

end Nat64
