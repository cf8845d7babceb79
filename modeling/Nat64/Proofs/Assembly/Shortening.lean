import Nat64.Proofs.Assembly

/-!
# Datagrams cut at the end

A datagram is made by adding segments, changing owned ones and cutting payload. It never holds payload without bytes,
and so the last segment is all that cutting it changes: that is shortened, or taken out if nothing is left of it.

* `Edit`, `Edit.apply`, `edited`: what can be done to a datagram.
* `Dense`, `Dense.edit`, `dense_edited`: no payload without bytes, after one edit and after any number of them.
* `shorten_payload_segments`, `size_shorten_payload`: what is left of payload at the end, and what is in front of it.
* `shorten_edited`: every datagram that can be made, and every limit.
-/

namespace Nat64

-- Sums of natural numbers mean the same here whatever else is in scope.
attribute [local instance (2000)] Zero.ofOfNat0

namespace Assembly

/-- A change to a datagram. -/
inductive Edit where
  | push (s : Segment)
  | append (other : Assembly)
  /-- Sets every byte of a segment that may be changed. -/
  | fill (index : Nat) (b : UInt8)
  /-- Writes a checksum into a segment if it has the room. -/
  | putChecksum (index offset : Nat) (value : UInt16)
  | shorten (limit : Nat)
deriving Repr

/-- The datagram after a change; a change that is refused leaves it as it is. -/
def Edit.apply (a : Assembly) : Edit → Assembly
  | push s => a.push s
  | append other => a ++ other
  | fill index b => (a.modify? index fun bytes => some (List.replicate bytes.length b)).getD a
  | putChecksum index offset value => (a.putChecksum index offset value).toOption.getD a
  | shorten limit => a.shorten limit

/-- The datagram that comes of changes to one without segments. -/
def edited (edits : List Edit) : Assembly := edits.foldl Edit.apply {}

/-! ## No payload without bytes -/

/-- Payload that is stored has bytes. -/
def Dense (a : Assembly) : Prop := ∀ s ∈ a.segments, ¬ s.IsBlank

section Dense

variable {a b : Assembly} {front : List Segment} {tail : Bytes} {limit : Nat}

theorem dense_empty : Dense {} := fun _ hs => absurd hs List.not_mem_nil

theorem Dense.push (h : a.Dense) (s : Segment) : (a.push s).Dense := by
  by_cases hs : s.IsBlank
  · rwa [push_of_blank a hs]
  · rw [push_of_not_blank a hs]
    intro other hother
    rcases List.mem_append.1 hother with hother | hother
    · exact h other hother
    · rwa [List.mem_singleton.1 hother]

theorem Dense.append (h : a.Dense) (b : Assembly) : (a ++ b).Dense := by
  intro s hs
  have hs : s ∈ (a.pushAll b.segments).segments := hs
  rw [segments_pushAll] at hs
  rcases List.mem_append.1 hs with hs | hs
  · exact h s hs
  · simpa using (List.mem_filter.1 hs).2

/-- A segment that may be changed is no payload, whatever becomes of its bytes. -/
theorem Dense.modify? {index : Nat} {change : Bytes → Option Bytes} (h : a.Dense)
    (hb : a.modify? index change = some b) :
    b.Dense := by
  obtain ⟨s, bytes, -, howned, -, rfl⟩ := modify?_eq_some.1 hb
  intro other hother
  rcases List.mem_or_eq_of_mem_set hother with hother | rfl
  · exact h other hother
  · exact fun hblank => howned hblank.1

theorem Dense.putChecksum {index offset : Nat} {value : UInt16} (h : a.Dense)
    (hb : a.putChecksum index offset value = .ok b) : b.Dense := by
  obtain ⟨s, hs, howned, -, rfl⟩ := putChecksum_eq_ok_iff.1 hb
  have hset : a.modify? index (fun _ => some (Bytes.setWord s.bytes offset value)) = some _ :=
    modify?_eq_some.2 ⟨s, _, hs, howned, rfl, rfl⟩
  exact h.modify? hset

theorem Dense.shorten (h : a.Dense) (limit : Nat) : (a.shorten limit).Dense := by
  rcases a.shorten_cases limit with hsame | ⟨front, tail, kept, rfl, -, hcut⟩
  · exact hsame.symm ▸ h
  · have hfront : Dense ⟨front⟩ := fun s hs => h s (List.mem_append_left _ hs)
    exact hcut ▸ hfront.push _

theorem Dense.edit (h : a.Dense) (e : Edit) : (e.apply a).Dense := by
  cases e with
  | push s => exact h.push s
  | append other => exact h.append other
  | fill index b =>
    rw [Edit.apply]
    cases hb : a.modify? index fun bytes => some (List.replicate bytes.length b) with
    | none => exact h
    | some b => exact h.modify? hb
  | putChecksum index offset value =>
    rw [Edit.apply]
    cases hb : a.putChecksum index offset value with
    | error f => exact h
    | ok b => exact h.putChecksum hb
  | shorten limit => exact h.shorten limit

theorem dense_foldl (h : a.Dense) (edits : List Edit) : (edits.foldl Edit.apply a).Dense := by
  induction edits generalizing a with
  | nil => exact h
  | cons e edits ih => exact ih (h.edit e)

theorem dense_edited (edits : List Edit) : (edited edits).Dense := dense_foldl dense_empty edits

end Dense

/-! ## Cutting -/

section Shorten

variable {a : Assembly} {front : List Segment} {tail : Bytes}

theorem size_push (a : Assembly) (s : Segment) : (a.push s).size = a.size + s.bytes.length := by
  rw [← length_bytes, bytes_push, List.length_append, length_bytes]

/-- What is left of a datagram is what it begins with. -/
theorem bytes_shorten_prefix (a : Assembly) (limit : Nat) : (a.shorten limit).bytes <+: a.bytes := by
  rcases a.shorten_cases limit with hsame | ⟨front, tail, kept, rfl, hkept, hcut⟩
  · exact hsame.symm ▸ List.prefix_rfl
  · rw [hcut, bytes_push, bytes_mk, bytes_mk, List.flatMap_append, List.flatMap_singleton]
    exact (List.prefix_append_right_inj _).2 hkept

/-- The segments in front of payload at the end stay, and so does what the limit leaves of that payload. -/
theorem shorten_payload_segments (h : tail ≠ []) (limit : Nat) :
    ∃ kept, kept <+: tail ∧ ((⟨front ++ [⟨.payload, tail⟩]⟩ : Assembly).shorten limit).segments
      = front ++ if kept = [] then [] else [⟨.payload, kept⟩] := by
  refine ⟨tail.take (limit - size ⟨front⟩), List.take_prefix _ _, ?_⟩
  rw [shorten_of_payload h]
  by_cases hkept : tail.take (limit - size ⟨front⟩) = []
  · rw [push_of_blank _ ⟨rfl, hkept⟩, if_pos hkept, List.append_nil]
  · rw [push_of_not_blank _ fun hblank => hkept hblank.2, if_neg hkept]

/-- Payload at the end is cut by what is over the limit, as far as there is payload. -/
theorem size_shorten_payload (h : tail ≠ []) (limit : Nat) :
    let a : Assembly := ⟨front ++ [⟨.payload, tail⟩]⟩
    (a.shorten limit).size = min a.size (max limit (a.size - tail.length)) := by
  intro a
  have hwhole : a.size = size ⟨front⟩ + tail.length := size_concat front ⟨.payload, tail⟩
  rw [shorten_of_payload h, size_push, List.length_take, hwhole]
  omega

/-- A datagram that is edited holds no payload without bytes, before it is cut and after. Cutting it to a limit takes
bytes off its end: with payload as the last segment, as many as are over the limit or the payload has, and the segments
in front stay as they are; otherwise, none. -/
theorem shorten_edited (edits : List Edit) (limit : Nat) :
    let a := edited edits
    let b := a.shorten limit
    b.bytes <+: a.bytes
      ∧ (∀ front tail, a.segments = front ++ [⟨.payload, tail⟩] →
        b.size = min a.size (max limit (a.size - tail.length))
          ∧ ∃ kept, kept <+: tail ∧ b.segments = front ++ if kept = [] then [] else [⟨.payload, kept⟩])
      ∧ ((∀ s, a.segments.getLast? = some s → s.IsOwned) → b = a)
      ∧ a.Dense ∧ b.Dense := by
  intro a b
  have ha : a.Dense := dense_edited edits
  refine ⟨a.bytes_shorten_prefix limit, ?_, fun h => shorten_of_owned h limit, ha, ha.shorten limit⟩
  intro front tail hsegments
  have hlast : (⟨.payload, tail⟩ : Segment) ∈ a.segments := by
    rw [hsegments]
    exact List.mem_concat_self
  have htail : tail ≠ [] := fun hblank => ha _ hlast ⟨rfl, hblank⟩
  have hwhole : a = ⟨front ++ [⟨.payload, tail⟩]⟩ := congrArg Assembly.mk hsegments
  have hcut : b = (⟨front ++ [⟨.payload, tail⟩]⟩ : Assembly).shorten limit := congrArg (shorten · limit) hwhole
  rw [hcut, hwhole]
  exact ⟨size_shorten_payload htail limit, shorten_payload_segments htail limit⟩

/-- A header, two pieces of payload and one without bytes, cut below the header: the piece
at the end goes, and no other. -/
theorem shorten_edited_sample :
    let edits : List Edit := [.push ⟨.icmp, [8, 0]⟩, .append ⟨[⟨.payload, [1]⟩, ⟨.payload, []⟩]⟩, .fill 0 3,
      .push ⟨.payload, [4, 5]⟩]
    (edited edits).segments = [⟨.icmp, [3, 3]⟩, ⟨.payload, [1]⟩] ++ [⟨.payload, [4, 5]⟩]
      ∧ ((edited edits).shorten 1).size = 3
      ∧ ((edited edits).shorten 1).segments = [⟨.icmp, [3, 3]⟩, ⟨.payload, [1]⟩] := by
  intro edits
  have hsegments : (edited edits).segments = [⟨.icmp, [3, 3]⟩, ⟨.payload, [1]⟩] ++ [⟨.payload, [4, 5]⟩] := by decide
  have hsize : (edited edits).size = 5 := by decide
  obtain ⟨hcut, -⟩ := (shorten_edited edits 1).2.1 _ _ hsegments
  exact ⟨hsegments, hcut.trans (by rw [hsize]; decide), by decide⟩

end Shorten

end Assembly

end Nat64
