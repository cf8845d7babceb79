import Nat64.Proofs.Forwarding.Quoted
import Nat64.Proofs.HexDump
import Nat64.Proofs.Machine.Forwarding

/-!
# The gateway on the machine

The counters of the tally are natural numbers here too; everything else is bounded. Frames of neither family may be
dumped for whoever reads along, and only there the size of a frame matters: a string has less than 2 ^ 63 bytes.

* `Machine.translate`, `Machine.process`, `Machine.handle`: the gateway, operation by operation.
* `Gateway.never_traps`: none of them traps, and none of them meets one of the faults that are never met.
-/

namespace Nat64

namespace Machine

/-! ## Dumps -/

/-- The number of bytes in front of a string that no string reaches. -/
def stringBound : Nat := 0x8000000000000000

/-- The bytes that are set aside for a dump. -/
def dumpCapacity (data : Bytes) : Run Nat := do
  let digits ← mul .w64 data.length 3
  let capacity ← add .w64 digits (← mul .w64 (data.length / HexDump.width) 8)
  assert (capacity < stringBound)
  return capacity

/-- The lines of a dump, counted from a given one on. -/
def dumpLines : Nat → List Bytes → Run (List String)
  | _, [] => return []
  | i, part :: rest => do
    let offset ← mul .w64 i HexDump.width
    return HexDump.line offset part :: (← dumpLines (← add .w64 i 1) rest)

/-- The dump of a buffer. -/
def dump (data : Bytes) : Run String := do
  let _ ← dumpCapacity data
  return "\n".intercalate (← dumpLines 0 (HexDump.chunks data))

theorem dumpLines_eq {parts : List Bytes} {i : Nat} (h : (i + parts.length) * HexDump.width < 0x10000000000000000) :
    dumpLines i parts = .ok (parts.mapIdx fun k part => HexDump.line ((i + k) * HexDump.width) part) := by
  induction parts generalizing i with
  | nil => rfl
  | cons part rest ih =>
    rw [List.length_cons, HexDump.width] at h
    have hoffset : i * HexDump.width < 0x10000000000000000 := by
      rw [HexDump.width]
      omega
    rw [dumpLines, mul_w64 hoffset, ok_bind, add_w64 (by omega), ok_bind, ih (by rw [HexDump.width]; omega), ok_bind,
      List.mapIdx_cons]
    simp only [Nat.add_assoc, Nat.add_comm 1, Nat.add_zero]
    rfl

theorem dump_eq {data : Bytes} (h : data.length < 0x2000000000000000) : dump data = .ok (HexDump.render data) := by
  have hchunks := HexDump.length_chunks data
  have hlines : (0 + (HexDump.chunks data).length) * HexDump.width < 0x10000000000000000 := by
    rw [HexDump.width]
    omega
  have hcapacity : data.length * 3 + data.length / HexDump.width * 8 < stringBound := by
    rw [HexDump.width, stringBound]
    omega
  rw [stringBound] at hcapacity
  have hset : dumpCapacity data = .ok (data.length * 3 + data.length / HexDump.width * 8) := by
    rw [dumpCapacity, mul_w64 (by omega), ok_bind, mul_w64 (by omega), ok_bind, add_w64 (by omega), ok_bind,
      assert_eq (by rw [stringBound]; omega)]
    rfl
  rw [dump, hset, ok_bind, dumpLines_eq hlines]
  simp only [Nat.zero_add]
  rfl

/-! ## The gateway -/

/-- Runs the steps on the leases. -/
def settle (step : StepM Outcome) (t : LeaseTable) : Run (Except Fault Outcome × LeaseTable) := do
  match ← step t with
  | (.ok outcome, t) => return (.ok outcome, t)
  | (.error (.drop reason), t) => return (.ok (.drop reason), t)
  | (.error (.fault f), t) => return (.error f, t)

/-- Carries a packet of a family over to the other. -/
def translateAs (g : Gateway) (now : Nat) (family : Family) (packet : Bytes) :
    Run (Except Fault Outcome × Gateway) := do
  let step := match family with
    | .ipv4 => toIPv6 g.embedding now packet
    | .ipv6 => toIPv4 now packet
  let (r, leases) ← settle step g.leases
  return (r, { g with leases })

/-- Carries a packet of either family over to the other. -/
def translate (g : Gateway) (now : Nat) (packet : Bytes) : Run (Except Fault Outcome × Gateway) :=
  match Frame.family? packet with
  | some family => translateAs g now family packet
  | none =>
    match Frame.version? packet with
    | some version => return (.error (.malformed (.unknownVersion version)), g)
    | none => return (.error (.malformed .empty), g)

/-- Carries a packet over and sends what results. -/
def process {σ : Type} (g : Gateway) (egress : Egress σ) (now : Nat) (packet : Bytes) (s : σ) :
    Run (Except Fault Fate × Gateway × σ) := do
  match ← translate g now packet with
  | (.error f, g) => return (.ok (.failed f), g, s)
  | (.ok (.drop reason), g) => return (.ok (.dropped reason), g, s)
  | (.ok (.forward d), g) | (.ok (.reply d), g) =>
    let (r, s) := egress.deliver d s
    return (r, g, s)

/-- Handles one received frame and counts its fate. A frame of neither family is dumped if anyone reads along. -/
def handle {σ : Type} (verbose : Bool) (g : Gateway) (egress : Egress σ) (now : Nat) (frame : Bytes) (s : σ) :
    Run (Except Fault Unit × Gateway × σ) := do
  if (Frame.family? frame).isNone then
    if verbose then
      let _ ← dump frame
    return (.ok (), { g with tally := g.tally.countUnknown }, s)
  else
    match ← process g egress now frame s with
    | (.ok fate, g, s) => return (.ok (), { g with tally := g.tally.count fate }, s)
    | (.error f, g, s) => return (.error f, g, s)

section Gateway

variable {σ : Type}

theorem settle_eq {step : StepM Outcome} {f : ForwardM Outcome} {t : LeaseTable} (h : Follows step f t) :
    settle step t = .ok (Forwarding.settle f t) := by
  rw [settle, h, ok_bind, Forwarding.settle]
  rcases f t with ⟨(reason | f) | outcome, s⟩
  · rfl
  · rfl
  · rfl

theorem translateAs_eq (g : Gateway) (now : Nat) (family : Family) (packet : Bytes) :
    translateAs g now family packet = .ok (g.translateAs now family packet) := by
  unfold translateAs
  cases family with
  | ipv4 =>
    show (settle (toIPv6 g.embedding now packet) g.leases >>= _) = _
    rw [settle_eq (toIPv6_follows g.embedding now packet g.leases)]
    rfl
  | ipv6 =>
    show (settle (toIPv4 now packet) g.leases >>= _) = _
    rw [settle_eq (toIPv4_follows g.embedding now packet g.leases)]
    rfl

theorem translate_eq (g : Gateway) (now : Nat) (packet : Bytes) :
    translate g now packet = .ok (g.translate now packet) := by
  unfold translate Gateway.translate
  rcases Frame.family? packet with _ | family
  · rcases Frame.version? packet with _ | version
    · rfl
    · rfl
  · exact translateAs_eq g now family packet

theorem process_eq (g : Gateway) (egress : Egress σ) (now : Nat) (packet : Bytes) (s : σ) :
    process g egress now packet s = .ok (g.process egress now packet s) := by
  rw [process, translate_eq, ok_bind, Gateway.process]
  rcases g.translate now packet with ⟨_ | (_ | _ | _), _⟩ <;> rfl

theorem handle_eq {verbose : Bool} {frame : Bytes} (h : verbose = true → frame.length < 0x2000000000000000)
    (g : Gateway) (egress : Egress σ) (now : Nat) (s : σ) :
    handle verbose g egress now frame s = .ok (g.handle egress now frame s) := by
  unfold handle Gateway.handle
  split
  · cases verbose with
    | false => rfl
    | true =>
      rw [if_pos rfl, dump_eq (h rfl)]
      rfl
  · rw [process_eq, ok_bind]
    rcases g.process egress now frame s with ⟨_ | _, _, _⟩ <;> rfl

end Gateway

end Machine

namespace Gateway

/-- Whatever the bytes, the prefix, the leases and the egress are, the gateway runs on a machine with bounds: no
index and no slice leaves its buffer, no sum and no difference leaves its width, no cast loses bits, no assertion
fails and nothing quoted is opened twice, and the results are those of the definitions. The size of a frame
matters only where it is dumped. What is refused is never refused with an internal fault, and a packet fails by
one only if the egress refused it so. -/
theorem never_traps {σ : Type} (g : Gateway) (egress : Egress σ) (now : Nat) (packet : Bytes) (s : σ) :
    Machine.translate g now packet = .ok (g.translate now packet) ∧
    Machine.process g egress now packet s = .ok (g.process egress now packet s) ∧
    (∀ verbose, (verbose = true → packet.length < 0x2000000000000000) →
      Machine.handle verbose g egress now packet s = .ok (g.handle egress now packet s)) ∧
    EndsIn Fault.IsExternal (g.translate now packet).1 ∧
    EndsIn Fault.IsExternal (g.process egress now packet s).1 ∧
    (∀ f, (g.process egress now packet s).1 = .ok (.failed f) → f.IsExternal ∨ ∃ d, (egress d s).1 = .error f) ∧
    EndsIn Fault.IsExternal (g.handle egress now packet s).1 :=
  ⟨Machine.translate_eq g now packet, Machine.process_eq g egress now packet s,
    fun _ hsize => Machine.handle_eq hsize g egress now s, translate_external g now packet,
    process_external g egress now packet s, fun _ => failed_external, handle_external g egress now packet s⟩

/-- A port unreachable from `2001:db8::1` about a TCP message of 1004 bytes, of which it quotes the first thirteen. -/
def sampleCut : Bytes :=
  [0x60, 0, 0, 0, 0, 61, 58, 64,
    0x20, 0x01, 0x0d, 0xb8, 0, 0, 0, 0, 0, 0, 0, 0, 0, 0, 0, 1,
    0, 0x64, 0xff, 0x9b, 0, 0, 0, 0, 0, 0, 0, 0, 203, 0, 113, 5,
    1, 4, 0, 0, 0, 0, 0, 0,
    0x60, 0, 0, 0, 3, 0xec, 6, 0,
    0, 0x64, 0xff, 0x9b, 0, 0, 0, 0, 0, 0, 0, 0, 203, 0, 113, 5,
    0x20, 0x01, 0x0d, 0xb8, 0, 0, 0, 0, 0, 0, 0, 0, 0, 0, 0, 1,
    0, 80, 4, 0xd2, 0, 0, 0, 1, 0, 0, 0, 2, 0xf0]

/-- An egress that takes everything. -/
def sampleEgress : Egress Unit := fun _ s => (.ok (), s)

set_option maxRecDepth 4000 in
theorem never_traps_samples :
    (∃ d g, Machine.translate sampleGateway 0 sampleCut = .ok (.ok (.forward d), g)) ∧
    Machine.handle true sampleGateway sampleEgress 0 [0x70, 0xff] () =
      .ok (.ok (), { sampleGateway with tally := { unknown := 1 } }, ()) ∧
    Fault.IsExternal (.malformed (.truncated .ipv4Header 2 20)) := by
  obtain ⟨d, g, hforward⟩ : ∃ d g, sampleGateway.translate 0 sampleCut = (.ok (.forward d), g) := ⟨_, _, rfl⟩
  refine ⟨⟨d, g, ?_⟩, ?_, ?_⟩
  · rw [(never_traps sampleGateway sampleEgress 0 sampleCut ()).1, hforward]
  · rw [(never_traps sampleGateway sampleEgress 0 [0x70, 0xff] ()).2.2.1 true fun _ => by decide]
    rfl
  · rcases (never_traps sampleGateway sampleEgress 0 [0x45, 0] ()).2.2.2.2.2.1 _ rfl with hexternal | ⟨d, hrefused⟩
    · exact hexternal
    · cases hrefused

end Gateway

end Nat64
