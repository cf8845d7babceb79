import Nat64.Proofs.Forwarding.Internal
import Nat64.Proofs.Session

/-!
# The books of the gateway

Every frame ends in one of six ways (`Gateway.Account`), and a run of frames is a chain of them (`Gateway.Ledger`). An
egress that is watched behaves as it does unwatched, so the chain lists what it was really handed, and the counters and
the errors of a run are read off it.

* `Egress.recorded`: an egress with a record of its calls.
* `Gateway.exists_handled`, `Gateway.handleAll_ledger`: one frame from any state, and a run of them.
* `Gateway.Ledger.accepted`, `Gateway.Ledger.counted`, `Gateway.Ledger.lasting`: what a chain says
  about the counters and the errors.
* `Gateway.handleAll_books`: all of it together, for the gateway at work.
-/

namespace Nat64

/-! ## What the egress was handed -/

/-- A datagram that was handed to the egress, with its answer. -/
structure Attempt where
  datagram : Datagram
  answer : Except Fault Unit

/-- Whether the egress accepted the datagram. -/
def Attempt.accepted (a : Attempt) : Bool := a.answer.isOk

/-- The fault that a call reported. -/
def fault? : Except Fault Unit → Option Fault
  | .ok () => none
  | .error f => some f

/-- The fault of an answer that leaves the egress unusable. -/
def Attempt.lasting? (a : Attempt) : Option Fault := (fault? a.answer).filter fun f => !f.isPacketLevel

/-- The egress, with a record of all it was handed. -/
def Egress.recorded {σ : Type} (egress : Egress σ) : Egress (σ × List Attempt) := fun d s =>
  ((egress d s.1).1, (egress d s.1).2, s.2 ++ [⟨d, (egress d s.1).1⟩])

theorem Egress.recorded_eq {σ : Type} {egress : Egress σ} {d : Datagram} {s s' : σ} {answer : Except Fault Unit}
    (h : egress d s = (answer, s')) (log : List Attempt) :
    egress.recorded d (s, log) = (answer, s', log ++ [⟨d, answer⟩]) := by
  rw [recorded, h]

/-! ## Counting -/

namespace Tally

/-- How many frames were counted. -/
def counted (tally : Tally) : Nat := tally.sent + tally.dropped + tally.failed + tally.unknown

/-- Exactly one of the counters has gone up, by one. -/
inductive Counts (before : Tally) : Tally → Prop
  | sent : Counts before { before with sent := before.sent + 1 }
  | dropped : Counts before { before with dropped := before.dropped + 1 }
  | failed : Counts before { before with failed := before.failed + 1 }
  | unknown : Counts before { before with unknown := before.unknown + 1 }

theorem Counts.counted {before after : Tally} (h : before.Counts after) : after.counted = before.counted + 1 := by
  cases h <;> simp only [Tally.counted] <;> omega

end Tally

namespace Gateway

variable {σ : Type} {g g' : Gateway} {egress : Egress σ} {now : Nat} {frame : Bytes} {d : Datagram} {f : Fault}
  {s s' : σ}

/-- The gateway with other counts. -/
def withTally (g : Gateway) (tally : Tally) : Gateway := { g with tally }

/-- The packet is carried over, or answered, by a datagram. -/
def Emits (g : Gateway) (now : Nat) (packet : Bytes) (d : Datagram) : Prop :=
  (g.translate now packet).1 = .ok (.forward d) ∨ (g.translate now packet).1 = .ok (.reply d)

/-! ## One frame -/

theorem translate_tally (g : Gateway) (now : Nat) (packet : Bytes) : (g.translate now packet).2.tally = g.tally := by
  rcases hf : Frame.family? packet with _ | family
  · rw [translate_of_unknown hf]
  · rw [translate_of_family hf]
    rfl

theorem known_of_ok {outcome : Outcome} (h : (g.translate now frame).1 = .ok outcome) : Frame.family? frame ≠ none := by
  intro hf
  rw [translate, hf] at h
  cases hv : Frame.version? frame <;> rw [hv] at h <;> cases h

theorem Emits.known (h : g.Emits now frame d) : Frame.family? frame ≠ none := h.elim known_of_ok known_of_ok

/-- Anything but a fault that ends the work is counted. -/
theorem handle_counted (hknown : Frame.family? frame ≠ none) {fate : Fate}
    (h : g.process egress now frame s = (.ok fate, g', s')) :
    g.handle egress now frame s = (.ok (), g'.withTally (g.tally.count fate), s') := by
  have htally : g'.tally = g.tally := by rw [← translate_tally g now frame, ← process_gateway egress frame s, h]
  rw [handle, if_neg (by rwa [Option.isNone_iff_eq_none]), h, ← htally]
  rfl

theorem handle_unknown (h : Frame.family? frame = none) (egress : Egress σ) (s : σ) :
    g.handle egress now frame s = (.ok (), g.withTally g.tally.countUnknown, s) := by
  rw [handle, if_pos (by rw [h]; rfl)]
  rfl

theorem handle_refused (hknown : Frame.family? frame ≠ none) (h : (g.translate now frame).1 = .error f)
    (egress : Egress σ) (s : σ) :
    g.handle egress now frame s = (.ok (), (g.translate now frame).2.withTally (g.tally.count (.failed f)), s) := by
  refine handle_counted hknown ?_
  rw [process, ← Prod.eta (g.translate now frame), h]

theorem handle_dropped {reason : DropReason} (h : (g.translate now frame).1 = .ok (.drop reason))
    (egress : Egress σ) (s : σ) :
    g.handle egress now frame s
      = (.ok (), (g.translate now frame).2.withTally (g.tally.count (.dropped reason)), s) := by
  refine handle_counted (known_of_ok h) ?_
  rw [process, ← Prod.eta (g.translate now frame), h]

theorem process_emits (h : g.Emits now frame d) (egress : Egress σ) (s : σ) :
    g.process egress now frame s = ((egress.deliver d s).1, (g.translate now frame).2, (egress.deliver d s).2) := by
  rw [process, ← Prod.eta (g.translate now frame)]
  rcases h with h | h <;> rw [h]

theorem handle_sent (h : g.Emits now frame d) (ha : egress d s = (.ok (), s')) :
    g.handle egress now frame s = (.ok (), (g.translate now frame).2.withTally (g.tally.count .sent), s') := by
  refine handle_counted h.known ?_
  rw [process_emits h, Egress.deliver, ha]

theorem handle_rejected (h : g.Emits now frame d) (hf : f.isPacketLevel = true) (ha : egress d s = (.error f, s')) :
    g.handle egress now frame s = (.ok (), (g.translate now frame).2.withTally (g.tally.count (.failed f)), s') := by
  refine handle_counted h.known ?_
  rw [process_emits h, Egress.deliver, ha]
  simp only [hf, if_true]

theorem handle_fatal (h : g.Emits now frame d) (hf : f.isPacketLevel = false) (ha : egress d s = (.error f, s')) :
    g.handle egress now frame s = (.error f, (g.translate now frame).2, s') := by
  have hprocess : g.process egress now frame s = (.error f, (g.translate now frame).2, s') := by
    rw [process_emits h, Egress.deliver, ha]
    simp only [hf, Bool.false_eq_true, if_false]
  rw [handle, if_neg (by rw [Option.isNone_iff_eq_none]; exact h.known), hprocess]

/-- What one frame may come to: a result, a gateway and what was handed to the egress. -/
inductive Account (g : Gateway) (now : Nat) (frame : Bytes) : Except Fault Unit → Gateway → List Attempt → Prop
  | unknown (h : Frame.family? frame = none) :
    Account g now frame (.ok ()) (g.withTally g.tally.countUnknown) []
  | refused (f : Fault) (hknown : Frame.family? frame ≠ none) (h : (g.translate now frame).1 = .error f) :
    Account g now frame (.ok ()) ((g.translate now frame).2.withTally (g.tally.count (.failed f))) []
  | dropped (reason : DropReason) (h : (g.translate now frame).1 = .ok (.drop reason)) :
    Account g now frame (.ok ()) ((g.translate now frame).2.withTally (g.tally.count (.dropped reason))) []
  | sent (d : Datagram) (h : g.Emits now frame d) :
    Account g now frame (.ok ()) ((g.translate now frame).2.withTally (g.tally.count .sent)) [⟨d, .ok ()⟩]
  | rejected (d : Datagram) (f : Fault) (h : g.Emits now frame d) (hf : f.isPacketLevel = true) :
    Account g now frame (.ok ()) ((g.translate now frame).2.withTally (g.tally.count (.failed f))) [⟨d, .error f⟩]
  | fatal (d : Datagram) (f : Fault) (h : g.Emits now frame d) (hf : f.isPacketLevel = false) :
    Account g now frame (.error f) (g.translate now frame).2 [⟨d, .error f⟩]

/-- What one call comes to, with its account. The egress is not changed by being watched. -/
structure Handled (g : Gateway) (egress : Egress σ) (now : Nat) (frame : Bytes) (s : σ) (r : Except Fault Unit)
    (g' : Gateway) (s' : σ) (calls : List Attempt) : Prop where
  plain : g.handle egress now frame s = (r, g', s')
  watched : ∀ log, g.handle egress.recorded now frame (s, log) = (r, g', s', log ++ calls)
  account : g.Account now frame r g' calls

/-- A frame with nothing to send comes to the same with every egress. -/
theorem handled_silent {r : Except Fault Unit}
    (h : ∀ {τ : Type} (egress : Egress τ) (device : τ), g.handle egress now frame device = (r, g', device))
    (haccount : g.Account now frame r g' []) : g.Handled egress now frame s r g' s [] where
  plain := h egress s
  watched log := by
    rw [List.append_nil]
    exact h egress.recorded (s, log)
  account := haccount

/-- The datagram of a frame that has one is answered in three ways. -/
theorem exists_handled_of_emits (h : g.Emits now frame d) (egress : Egress σ) (s : σ) :
    ∃ r g' s' calls, g.Handled egress now frame s r g' s' calls := by
  rcases ha : egress d s with ⟨f | _, s'⟩
  · cases hf : f.isPacketLevel with
    | true => exact ⟨_, _, _, _, handle_rejected h hf ha,
        fun log => handle_rejected h hf (Egress.recorded_eq ha log), .rejected d f h hf⟩
    | false => exact ⟨_, _, _, _, handle_fatal h hf ha,
        fun log => handle_fatal h hf (Egress.recorded_eq ha log), .fatal d f h hf⟩
  · exact ⟨_, _, _, _, handle_sent h ha, fun log => handle_sent h (Egress.recorded_eq ha log), .sent d h⟩

theorem exists_handled (g : Gateway) (egress : Egress σ) (now : Nat) (frame : Bytes) (s : σ) :
    ∃ r g' s' calls, g.Handled egress now frame s r g' s' calls := by
  by_cases hknown : Frame.family? frame = none
  · exact ⟨_, _, _, _, handled_silent (handle_unknown hknown) (.unknown hknown)⟩
  rcases h : (g.translate now frame).1 with f | (d | d | reason)
  · exact ⟨_, _, _, _, handled_silent (handle_refused hknown h) (.refused f hknown h)⟩
  · exact exists_handled_of_emits (.inl h) egress s
  · exact exists_handled_of_emits (.inr h) egress s
  · exact ⟨_, _, _, _, handled_silent (handle_dropped h) (.dropped reason h)⟩

namespace Account

variable {r : Except Fault Unit} {calls : List Attempt}

theorem counts (h : g.Account now frame r g' calls) :
    r = .ok () ∧ g.tally.Counts g'.tally ∨ (∃ f, r = .error f) ∧ g'.tally = g.tally := by
  cases h with
  | unknown => exact .inl ⟨rfl, .unknown⟩
  | refused => exact .inl ⟨rfl, .failed⟩
  | dropped => exact .inl ⟨rfl, .dropped⟩
  | sent => exact .inl ⟨rfl, .sent⟩
  | rejected => exact .inl ⟨rfl, .failed⟩
  | fatal d f => exact .inr ⟨⟨f, rfl⟩, translate_tally g now frame⟩

/-- The call reports what the egress answered, if that leaves the egress unusable, and nothing else. -/
theorem error_iff (h : g.Account now frame r g' calls) :
    r = .error f ↔ ∃ d, calls = [⟨d, .error f⟩] ∧ f.isPacketLevel = false := by
  cases h with
  | fatal d f' _ hf =>
    constructor
    · rintro ⟨⟩
      exact ⟨d, rfl, hf⟩
    · rintro ⟨_, ⟨⟩, _⟩
      rfl
  | rejected d f' _ hf =>
    refine ⟨fun h => (nomatch h), ?_⟩
    rintro ⟨_, ⟨⟩, hlasting⟩
    rw [hf] at hlasting
    cases hlasting
  | _ =>
    refine ⟨fun h => (nomatch h), ?_⟩
    rintro ⟨_, ⟨⟩, _⟩

theorem refused_of_error (h : g.Account now frame r g' calls) (hf : (g.translate now frame).1 = .error f) :
    r = .ok () ∧ calls = [] := by
  cases h with
  | unknown | refused | dropped => exact ⟨rfl, rfl⟩
  | sent _ h | rejected _ _ h | fatal _ _ h =>
    unfold Emits at h
    rw [hf] at h
    rcases h with h | h <;> cases h

theorem length_le (h : g.Account now frame r g' calls) :
    calls.length ≤ if Frame.family? frame = none then 0 else 1 := by
  cases h with
  | unknown h => rw [if_pos h]; exact Nat.le_refl 0
  | refused | dropped => exact Nat.zero_le _
  | sent _ h | rejected _ _ h | fatal _ _ h => rw [if_neg h.known]; exact Nat.le_refl 1

theorem accepted (h : g.Account now frame r g' calls) :
    g'.tally.sent = g.tally.sent + calls.countP Attempt.accepted := by
  cases h with
  | fatal => rw [translate_tally]; rfl
  | _ => rfl

theorem counted (h : g.Account now frame r g' calls) :
    g'.tally.counted = g.tally.counted + [r].countP Except.isOk := by
  rcases h.counts with ⟨rfl, hcounts⟩ | ⟨⟨f, rfl⟩, hsame⟩
  · exact hcounts.counted
  · rw [hsame]
    rfl

theorem lasting (h : g.Account now frame r g' calls) : [r].filterMap fault? = calls.filterMap Attempt.lasting? := by
  cases h with
  | rejected d f _ hf | fatal d f _ hf =>
    simp only [List.filterMap_cons, List.filterMap_nil, Attempt.lasting?, fault?, Option.filter, hf]
    rfl
  | _ => rfl

end Account

/-! ## Runs of frames -/

/-- Handles frames, each at its time, whatever the calls report. -/
def handleAll (g : Gateway) (egress : Egress σ) : List (Nat × Bytes) → σ → List (Except Fault Unit) × Gateway × σ
  | [], s => ([], g, s)
  | (now, frame) :: frames, s =>
    let (r, g, s) := g.handle egress now frame s
    let (results, g, s) := g.handleAll egress frames s
    (r :: results, g, s)

/-- The accounts of a run: each frame is accounted for from where the one before left the gateway. -/
inductive Ledger : Gateway → List (Nat × Bytes) → List (Except Fault Unit) → Gateway → List Attempt → Prop
  | nil (g : Gateway) : Ledger g [] [] g []
  | cons {g g₁ g₂ : Gateway} {now : Nat} {frame : Bytes} {r : Except Fault Unit} {calls : List Attempt}
    {frames : List (Nat × Bytes)} {results : List (Except Fault Unit)} {more : List Attempt}
    (first : g.Account now frame r g₁ calls) (rest : Ledger g₁ frames results g₂ more) :
    Ledger g ((now, frame) :: frames) (r :: results) g₂ (calls ++ more)

namespace Ledger

variable {frames : List (Nat × Bytes)} {results : List (Except Fault Unit)} {calls : List Attempt}

theorem accepted (h : g.Ledger frames results g' calls) :
    g'.tally.sent = g.tally.sent + calls.countP Attempt.accepted := by
  induction h with
  | nil g => rfl
  | cons first _ ih => rw [ih, first.accepted, List.countP_append, Nat.add_assoc]

theorem counted (h : g.Ledger frames results g' calls) :
    g'.tally.counted = g.tally.counted + results.countP Except.isOk := by
  induction h with
  | nil g => rfl
  | @cons _ _ _ _ _ r _ _ results _ first _ ih =>
    rw [ih, first.counted, Nat.add_assoc, ← List.countP_append, List.singleton_append]

theorem lasting (h : g.Ledger frames results g' calls) :
    results.filterMap fault? = calls.filterMap Attempt.lasting? := by
  induction h with
  | nil g => rfl
  | @cons _ _ _ _ _ r _ _ results _ first _ ih =>
    rw [List.filterMap_append, ← ih, ← first.lasting, ← List.filterMap_append, List.singleton_append]

theorem length_le (h : g.Ledger frames results g' calls) :
    calls.length ≤ frames.countP fun frame => (Frame.family? frame.2).isSome := by
  induction h with
  | nil g => exact Nat.le_refl 0
  | @cons _ _ _ now frame _ _ _ _ _ first _ ih =>
    have hfirst := first.length_le
    rw [List.length_append, List.countP_cons, Nat.add_comm]
    refine Nat.add_le_add ih (Nat.le_trans hfirst ?_)
    cases Frame.family? frame with
    | none => exact Nat.le_refl 0
    | some family => exact Nat.le_refl 1

end Ledger

/-- A run has its ledger, and nobody notices who keeps it. -/
theorem handleAll_ledger (g : Gateway) (egress : Egress σ) (frames : List (Nat × Bytes)) (s : σ) :
    ∃ results g' s' calls, g.handleAll egress frames s = (results, g', s') ∧
      (∀ log, g.handleAll egress.recorded frames (s, log) = (results, g', s', log ++ calls)) ∧
      g.Ledger frames results g' calls := by
  induction frames generalizing g s with
  | nil => exact ⟨[], g, s, [], rfl, fun log => by rw [List.append_nil, handleAll], .nil g⟩
  | cons next frames ih =>
    obtain ⟨now, frame⟩ := next
    obtain ⟨r, g₁, s₁, calls, hfirst⟩ := exists_handled g egress now frame s
    obtain ⟨results, g₂, s₂, more, hrun, hwatched, hrest⟩ := ih g₁ s₁
    refine ⟨r :: results, g₂, s₂, calls ++ more, ?_, fun log => ?_, .cons hfirst.account hrest⟩
    · rw [handleAll, hfirst.plain]
      simp only [hrun]
    · rw [handleAll, hfirst.watched]
      simp only [hwatched, List.append_assoc]

/-! ## The gateway at work -/

/-- What one call of `handle` has to do with the counters, the egress and `process`; `calls` is
all that it handed to the egress. -/
structure Booked (g : Gateway) (egress : Egress σ) (now : Nat) (frame : Bytes) (s : σ) (calls : List Attempt) :
    Prop where
  recorded : g.handle egress.recorded now frame (s, []) =
    ((g.handle egress now frame s).1, (g.handle egress now frame s).2.1, (g.handle egress now frame s).2.2, calls)
  once : calls.length ≤ 1
  counts : (g.handle egress now frame s).1 = .ok () ∧ g.tally.Counts (g.handle egress now frame s).2.1.tally ∨
    (∃ f, (g.handle egress now frame s).1 = .error f) ∧ (g.handle egress now frame s).2.1.tally = g.tally
  error_iff : ∀ f, (g.handle egress now frame s).1 = .error f ↔
    ∃ d, calls = [⟨d, .error f⟩] ∧ f.isPacketLevel = false
  /-- A packet is refused for its own faults, and the work goes on. -/
  refused : ∀ f, (g.translate now frame).1 = .error f →
    f.isPacketLevel = true ∧ (g.handle egress now frame s).1 = .ok () ∧ calls = []
  unknown : Frame.family? frame = none →
    g.handle egress now frame s = (.ok (), g.withTally { g.tally with unknown := g.tally.unknown + 1 }, s) ∧ calls = []
  known : Frame.family? frame ≠ none →
    (g.handle egress now frame s).1 = (g.process egress now frame s).1.map (fun _ => ()) ∧
    (g.handle egress now frame s).2.1.leases = (g.process egress now frame s).2.1.leases ∧
    (g.handle egress now frame s).2.2 = (g.process egress now frame s).2.2 ∧
    (g.handle egress.recorded now frame (s, [])).2.2 = (g.process egress.recorded now frame (s, [])).2.2

theorem handle_process (hknown : Frame.family? frame ≠ none) (g : Gateway) (egress : Egress σ) (now : Nat) (s : σ) :
    (g.handle egress now frame s).1 = (g.process egress now frame s).1.map (fun _ => ()) ∧
    (g.handle egress now frame s).2.1.leases = (g.process egress now frame s).2.1.leases ∧
    (g.handle egress now frame s).2.2 = (g.process egress now frame s).2.2 := by
  rw [handle, if_neg (by rwa [Option.isNone_iff_eq_none])]
  rcases g.process egress now frame s with ⟨_ | _, _, _⟩ <;> exact ⟨rfl, rfl, rfl⟩

theorem exists_booked (g : Gateway) (egress : Egress σ) (now : Nat) (frame : Bytes) (s : σ) :
    ∃ calls, g.Booked egress now frame s calls := by
  obtain ⟨r, g', s', calls, hhandle, hwatched, haccount⟩ := exists_handled g egress now frame s
  have hlength := haccount.length_le
  refine ⟨calls, ?_, ?_, ?_, ?_, ?_, ?_, ?_⟩
  · rw [hhandle, hwatched, List.nil_append]
  · exact Nat.le_trans hlength (by split <;> decide)
  · rw [hhandle]
    exact haccount.counts
  · rw [hhandle]
    exact fun f => haccount.error_iff
  · intro f hf
    refine ⟨(translate_ofPacket g now frame f hf).packetLevel, ?_⟩
    rw [hhandle]
    exact haccount.refused_of_error hf
  · intro hunknown
    rw [if_pos hunknown] at hlength
    exact ⟨handle_unknown hunknown egress s, List.length_eq_zero_iff.1 (Nat.le_zero.1 hlength)⟩
  · intro hknown
    obtain ⟨hresult, hleases, hdevice⟩ := handle_process hknown g egress now s
    exact ⟨hresult, hleases, hdevice, (handle_process hknown g egress.recorded now (s, [])).2.2⟩

/-- Each frame is counted once, or ends the work and is not counted; the work is ended by the egress alone. Over a run
the counters and the errors are those of what the egress was handed, at most one datagram for each frame. -/
theorem handleAll_books (g : Gateway) (egress : Egress σ) :
    (∀ now frame s, ∃ calls, g.Booked egress now frame s calls) ∧
    ∀ frames s, ∃ results g' s' calls,
      g.handleAll egress frames s = (results, g', s') ∧
      g.handleAll egress.recorded frames (s, []) = (results, g', s', calls) ∧
      g.Ledger frames results g' calls ∧
      g'.tally.sent = g.tally.sent + calls.countP Attempt.accepted ∧
      g'.tally.counted = g.tally.counted + results.countP Except.isOk ∧
      results.filterMap fault? = calls.filterMap Attempt.lasting? ∧
      calls.length ≤ frames.countP (fun frame => (Frame.family? frame.2).isSome) := by
  refine ⟨fun now frame s => exists_booked g egress now frame s, fun frames s => ?_⟩
  obtain ⟨results, g', s', calls, hrun, hwatched, hledger⟩ := handleAll_ledger g egress frames s
  refine ⟨results, g', s', calls, hrun, ?_, hledger, hledger.accepted, hledger.counted, hledger.lasting,
    hledger.length_le⟩
  rw [hwatched, List.nil_append]

end Gateway

end Nat64
