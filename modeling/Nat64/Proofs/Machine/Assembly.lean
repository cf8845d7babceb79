import Nat64.Proofs.Assembly
import Nat64.Proofs.Machine.Header

/-!
# Datagrams in segments on the machine

A datagram has room for five segments: an IP header, a control message, the IP header and the transport header that it
quotes, and payload.

* `Machine.push_eq`, `Machine.pushAll_eq`: segments are added as long as there is room.
* `Machine.size_eq`, `Machine.checksumFrom_eq`, `Machine.putChecksum_agrees`: sizes and checksums.
* `Machine.shorten_eq`: payload is cut within its bounds.
-/

namespace Nat64.Machine

/-- The number of segments that a datagram has room for. -/
def room : Nat := 5

/-- Adds a segment at the end; payload without bytes is left out. -/
def push (a : Assembly) (s : Segment) : Run Assembly := do
  if s.kind = .payload ∧ s.bytes = [] then return a
  assert (a.segments.length < room)
  return ⟨a.segments ++ [s]⟩

/-- Adds segments at the end, one after the other. -/
def pushAll (a : Assembly) (segments : List Segment) : Run Assembly := segments.foldlM push a

/-- The size of the datagram. -/
def size (a : Assembly) : Run Nat := a.segments.foldlM (fun total s => add .w64 total s.bytes.length) 0

/-- The checksum of a sum computed elsewhere and of the segments from `start` on. -/
def checksumFrom (a : Assembly) (start pseudo : Nat) : Run UInt16 :=
  checksum pseudo ((a.drop start).segments.map (·.bytes))

/-- Writes a checksum into a segment. -/
def putChecksum (a : Assembly) (index offset : Nat) (value : UInt16) : Checked Fault Assembly := do
  let last ← add .w64 offset 2
  match a.segments[index]? with
  | some s =>
    if s.IsOwned ∧ last ≤ s.bytes.length then
      let bytes ← write s.bytes offset last (Bytes.ofWord value)
      return ⟨a.segments.set index { s with bytes }⟩
    else throw (.malformed (.noChecksumField index))
  | none => throw (.malformed (.noChecksumField index))

/-- Cuts payload at the end so that at most `limit` bytes remain, or as few as the other segments allow. -/
def shorten (a : Assembly) (limit : Nat) : Run Assembly := do
  let total ← size a
  if total ≤ limit then return a
  let excess ← sub total limit
  match a.segments.getLast? with
  | some ⟨.payload, bytes⟩ =>
    -- this difference stops at zero
    let rest ← slice bytes 0 (bytes.length - excess)
    if rest = [] then return ⟨a.segments.dropLast⟩
    return ⟨a.segments.dropLast ++ [⟨.payload, rest⟩]⟩
  | _ => return a

section Operations

variable {a : Assembly}

theorem push_eq (h : a.segments.length < room) (s : Segment) : push a s = .ok (a.push s) := by
  unfold push Assembly.push
  split
  · rfl
  · rw [assert_eq h]
    rfl

theorem pushAll_eq {segments : List Segment} (h : a.segments.length + segments.length ≤ room) :
    pushAll a segments = .ok (a.pushAll segments) := by
  induction segments generalizing a with
  | nil => rfl
  | cons s rest ih =>
    rw [List.length_cons] at h
    have hpush := (a.within_self.push s).segments_le
    rw [pushAll, List.foldlM_cons, push_eq (by omega), ok_bind]
    exact ih (by omega)

theorem pushAll_pair (s s' : Segment) : pushAll {} [s, s'] = .ok (Assembly.ofList [s, s']) :=
  pushAll_eq (Nat.le_of_ble_eq_true rfl)

theorem foldlM_size {segments : List Segment} {total : Nat}
    (h : total + (segments.flatMap (·.bytes)).length < 0x10000000000000000) :
    segments.foldlM (fun total s => add .w64 total s.bytes.length) total
      = .ok (total + (segments.flatMap (·.bytes)).length) := by
  induction segments generalizing total with
  | nil => rfl
  | cons s rest ih =>
    rw [List.flatMap_cons, List.length_append, ← Nat.add_assoc] at h ⊢
    rw [List.foldlM_cons, add_w64 (by omega), ok_bind, ih h]

theorem size_eq (h : a.size < 0x10000000000000000) : size a = .ok a.size := by
  rw [← Assembly.length_bytes, Assembly.bytes] at h ⊢
  rw [size, foldlM_size (by rwa [Nat.zero_add]), Nat.zero_add]

theorem checksumFrom_eq (a : Assembly) (start : Nat) {pseudo : Nat} (h : pseudo < 0x100000000) :
    checksumFrom a start pseudo = .ok (a.checksumFrom start pseudo) := checksum_eq h _

theorem putChecksum_agrees (a : Assembly) (index : Nat) {offset : Nat} (h : offset + 2 < 0x10000000000000000)
    (value : UInt16) : Agrees (putChecksum a index offset value) (a.putChecksum index offset value) := by
  refine Agrees.run (add_w64 h) ?_
  unfold Assembly.putChecksum Assembly.modify?
  rcases a.segments[index]? with _ | s
  · exact .throw _
  simp only [Option.bind_eq_bind, Option.bind_some]
  by_cases howned : s.IsOwned
  · by_cases hroom : offset + 2 ≤ s.bytes.length
    · simp only [howned, hroom, and_self, if_true]
      exact Agrees.run (write_word hroom value) (.pure _)
    · simp only [howned, hroom, and_false, if_false, if_true]
      exact .throw _
  · simp only [howned, false_and, if_false]
    exact .throw _

theorem shorten_eq (h : a.size < 0x10000000000000000) (limit : Nat) : shorten a limit = .ok (a.shorten limit) := by
  rw [shorten, size_eq h, ok_bind]
  unfold Assembly.shorten
  by_cases hfits : a.size ≤ limit
  · simp only [if_pos hfits]
    split
    · rfl
    · rfl
  · rw [if_neg hfits, sub_eq (by omega), ok_bind]
    rcases a.segments.getLast? with _ | ⟨kind, bytes⟩
    · rfl
    · cases kind with
      | payload =>
        simp only [if_neg hfits, slice_front (Nat.sub_le _ _), ok_bind, Assembly.push, true_and]
        split
        · rfl
        · rfl
      | _ => rfl

end Operations

end Nat64.Machine
