import Nat64.Checksum
import Nat64.Fault

/-!
# Datagrams in segments

An outgoing datagram is a list of segments: headers that were built here and payload that is passed on as received.
Checksums run across the cuts.

* `Assembly.bytes`: the datagram itself, the view through which the operations are described.
* `Assembly.push` stores no empty payload, and `Assembly.shorten` cuts only payload at the end.
-/

namespace Nat64

/-- What a segment is. -/
inductive Segment.Kind where
  | ipv4
  | ipv6
  | icmp
  /-- The header of a TCP or UDP message, or the part of it that there is. -/
  | transport
  /-- Bytes passed on as received. -/
  | payload
deriving DecidableEq, Repr

/-- A run of bytes of one datagram. -/
structure Segment where
  kind : Segment.Kind
  bytes : Bytes
deriving DecidableEq, Repr

namespace Segment

/-- Whether the bytes belong to the datagram, so that they may be changed; payload belongs to the packet received. -/
def IsOwned (s : Segment) : Prop := s.kind ≠ .payload

instance (s : Segment) : Decidable s.IsOwned := inferInstanceAs (Decidable (s.kind ≠ .payload))

end Segment

/-- A datagram as the list of its segments. -/
structure Assembly where
  segments : List Segment := []
deriving DecidableEq, Repr

namespace Assembly

-- Sums of natural numbers mean the same here whatever else is in scope.
attribute [local instance (2000)] Zero.ofOfNat0

/-- Adds a segment at the end; payload without bytes is left out. -/
def push (a : Assembly) (s : Segment) : Assembly :=
  if s.kind = .payload ∧ s.bytes = [] then a else ⟨a.segments ++ [s]⟩

/-- Adds segments at the end, one after the other. -/
def pushAll (a : Assembly) (segments : List Segment) : Assembly := segments.foldl push a

/-- The datagram of the given segments. -/
def ofList (segments : List Segment) : Assembly := pushAll {} segments

instance : Append Assembly := ⟨fun a b => a.pushAll b.segments⟩

/-- The bytes of the datagram. -/
def bytes (a : Assembly) : Bytes := a.segments.flatMap (·.bytes)

/-- The datagram without its first segments. -/
def drop (a : Assembly) (start : Nat) : Assembly := ⟨a.segments.drop start⟩

/-- The size of the datagram. -/
def size (a : Assembly) : Nat := (a.segments.map (·.bytes.length)).sum

/-- The checksum of a sum computed elsewhere and of the segments from `start` on. -/
def checksumFrom (a : Assembly) (start pseudo : Nat) : UInt16 :=
  (Checksum.Accumulator.addSegments (Checksum.Accumulator.addSum {} pseudo)
    ((a.drop start).segments.map (·.bytes))).checksum

/-- Applies a change to the bytes of a segment that there is and that may be changed. -/
def modify? (a : Assembly) (index : Nat) (change : Bytes → Option Bytes) : Option Assembly := do
  let s ← a.segments[index]?
  if s.IsOwned then
    let bytes ← change s.bytes
    return ⟨a.segments.set index { s with bytes }⟩
  else none

/-- Writes a checksum into a segment. -/
def putChecksum (a : Assembly) (index offset : Nat) (value : UInt16) : Except Fault Assembly :=
  let write (bytes : Bytes) := if offset + 2 ≤ bytes.length then some (Bytes.setWord bytes offset value) else none
  match a.modify? index write with
  | some a => .ok a
  | none => .error (.malformed (.noChecksumField index))

/-- Writes a checksum into a segment, and tells what became of that and of the datagram. Index and offset
are 64-bit numbers; the program stops, and there is no result, if it would compare with the end of the
field and that is no such number. -/
def putChecksum? (a : Assembly) (index offset : UInt64) (value : UInt16) : Option (Except Fault Unit × Assembly) :=
  let compared := a.segments[index.toNat]?.any fun s => s.IsOwned
  if compared ∧ 0x10000000000000000 ≤ offset.toNat + 2 then none
  else
    match a.putChecksum index.toNat offset.toNat value with
    | .ok b => some (.ok (), b)
    | .error f => some (.error f, a)

/-- Cuts payload at the end so that at most `limit` bytes remain, or as few as the other segments allow. -/
def shorten (a : Assembly) (limit : Nat) : Assembly :=
  match a.segments.getLast? with
  | some ⟨.payload, bytes⟩ =>
    if a.size ≤ limit then a
    else push ⟨a.segments.dropLast⟩ ⟨.payload, bytes.take (bytes.length - (a.size - limit))⟩
  | _ => a

@[simp] theorem bytes_mk (segments : List Segment) : bytes ⟨segments⟩ = segments.flatMap (·.bytes) := rfl

@[simp] theorem length_bytes (a : Assembly) : a.bytes.length = a.size := by
  simp [bytes, size, List.length_flatMap]

@[simp] theorem bytes_push (a : Assembly) (s : Segment) : (a.push s).bytes = a.bytes ++ s.bytes := by
  unfold push
  split
  · rename_i h
    simp [h.2]
  · simp [bytes]

@[simp] theorem bytes_pushAll (a : Assembly) (segments : List Segment) :
    (a.pushAll segments).bytes = a.bytes ++ segments.flatMap (·.bytes) := by
  induction segments generalizing a with
  | nil => simp [pushAll]
  | cons s rest ih =>
    have := ih (a.push s)
    simp only [pushAll, List.foldl_cons] at this ⊢
    rw [this]
    simp

@[simp] theorem bytes_append (a b : Assembly) : (a ++ b).bytes = a.bytes ++ b.bytes :=
  bytes_pushAll ..

end Assembly

/-- A finished datagram and where it goes. -/
structure Datagram where
  /-- The segments, the IP header first. -/
  body : Assembly
  destination : Address
deriving DecidableEq, Repr

end Nat64
