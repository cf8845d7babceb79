import Nat64.Assembly
import Nat64.Proofs.Checksum.Verification

/-!
# Datagrams under construction

What the operations on segments do to the bytes of the datagram, and that the segments built here stay in front.

* `segments_pushAll`, `ofList_append`: what is stored.
* `bytes_ofList`, `bytes_front`: the bytes in order.
* `shorten_cases`, `shorten_of_payload`, `shorten_of_owned`: what is cut, and
  `bytes_shorten_ofList`: what is left of the bytes.
* `StartsWith`: what a datagram starts with; pushing, appending and shortening leave it there.
* `modify?_eq_some`, `putChecksum_eq_ok_iff`: when a segment is changed, and how.
* `putChecksum_eq_ok`, `StartsWith.putChecksum`: a checksum is written into the bytes of the datagram.
* `checksumFrom_eq`: it is the checksum of all of them.
* `Within`: how many segments and bytes there are at most.
-/

namespace Nat64

/-- Payload without bytes. -/
def Segment.IsBlank (s : Segment) : Prop := s.kind = .payload ∧ s.bytes = []

instance (s : Segment) : Decidable s.IsBlank := inferInstanceAs (Decidable (s.kind = .payload ∧ s.bytes = []))

namespace Assembly

section Segments

variable {front : List Segment}

theorem push_of_blank (a : Assembly) {s : Segment} (h : s.IsBlank) : a.push s = a := if_pos h

theorem push_of_not_blank (a : Assembly) {s : Segment} (h : ¬ s.IsBlank) : a.push s = ⟨a.segments ++ [s]⟩ := if_neg h

/-- What is pushed is stored unless it is blank. -/
theorem segments_pushAll (a : Assembly) (segments : List Segment) :
    (a.pushAll segments).segments = a.segments ++ segments.filter fun s => ¬ s.IsBlank := by
  induction segments generalizing a with
  | nil => exact (List.append_nil _).symm
  | cons s segments ih =>
    refine (ih (a.push s)).trans ?_
    by_cases hs : s.IsBlank
    · rw [push_of_blank a hs, List.filter_cons_of_neg (by simpa using hs)]
    · rw [push_of_not_blank a hs, List.filter_cons_of_pos (by simpa using hs), List.append_assoc, List.singleton_append]

theorem filter_owned (hfront : ∀ s ∈ front, s.IsOwned) : (front.filter fun s => ¬ s.IsBlank) = front :=
  List.filter_eq_self.2 fun s hs => decide_eq_true fun hblank => hfront s hs hblank.1

theorem isOwned_singleton {kind : Segment.Kind} (h : kind ≠ .payload) (bytes : Bytes) :
    ∀ s ∈ [Segment.mk kind bytes], s.IsOwned := fun _ hs => List.mem_singleton.1 hs ▸ h

/-- Datagrams that are put together are one datagram. -/
theorem ofList_append (front rest : List Segment) : ofList front ++ ofList rest = ofList (front ++ rest) := by
  have hsegments : ((ofList front).pushAll (ofList rest).segments).segments = (ofList (front ++ rest)).segments := by
    simp only [ofList, segments_pushAll, List.filter_append, List.filter_filter, Bool.and_self, List.nil_append]
  exact congrArg Assembly.mk hsegments

theorem bytes_ofList (segments : List Segment) : (ofList segments).bytes = segments.flatMap (·.bytes) := by
  rw [ofList, bytes_pushAll, bytes_mk, List.flatMap_nil, List.nil_append]

/-- A header and what it was put in front of. -/
theorem bytes_front (s : Segment) (body : Assembly) : (ofList [s] ++ body).bytes = s.bytes ++ body.bytes := by
  rw [bytes_append, bytes_ofList, List.flatMap_singleton]

/-! ## Cutting -/

theorem size_concat (front : List Segment) (s : Segment) : size ⟨front ++ [s]⟩ = size ⟨front⟩ + s.bytes.length := by
  rw [← length_bytes, ← length_bytes, bytes_mk, bytes_mk, List.flatMap_append, List.length_append,
    List.flatMap_singleton]

/-- Over the limit, payload at the end keeps what the other segments leave of the limit. -/
theorem shorten_concat (front : List Segment) (tail : Bytes) (limit : Nat) :
    shorten ⟨front ++ [⟨.payload, tail⟩]⟩ limit
      = if size ⟨front⟩ + tail.length ≤ limit then ⟨front ++ [⟨.payload, tail⟩]⟩
        else push ⟨front⟩ ⟨.payload, tail.take (limit - size ⟨front⟩)⟩ := by
  unfold shorten
  rw [List.getLast?_concat]
  simp only [size_concat, List.dropLast_concat]
  by_cases hle : size ⟨front⟩ + tail.length ≤ limit
  · rw [if_pos hle, if_pos hle]
  · have hcut : tail.length - (size ⟨front⟩ + tail.length - limit) = limit - size ⟨front⟩ := by omega
    rw [if_neg hle, if_neg hle, hcut]

/-- Payload at the end keeps what the other segments leave of the limit, and goes if that is nothing. -/
theorem shorten_of_payload {tail : Bytes} (h : tail ≠ []) (limit : Nat) :
    shorten ⟨front ++ [⟨.payload, tail⟩]⟩ limit = push ⟨front⟩ ⟨.payload, tail.take (limit - size ⟨front⟩)⟩ := by
  have hkept : ¬ (⟨.payload, tail⟩ : Segment).IsBlank := fun hblank => h hblank.2
  rw [shorten_concat]
  split
  · rw [List.take_of_length_le (by omega), push_of_not_blank _ hkept]
  · rfl

/-- Other segments are not cut. -/
theorem shorten_of_owned {a : Assembly} (h : ∀ s, a.segments.getLast? = some s → s.IsOwned) (limit : Nat) :
    a.shorten limit = a := by
  unfold shorten
  split
  · rename_i tail hlast
    exact absurd rfl (h _ hlast)
  · rfl

theorem payload_or_owned (a : Assembly) : (∃ front tail, a = ⟨front ++ [⟨.payload, tail⟩]⟩) ∨
    ∀ s, a.segments.getLast? = some s → s.IsOwned := by
  by_cases hlast : ∃ s, a.segments.getLast? = some s ∧ ¬ s.IsOwned
  · left
    obtain ⟨⟨kind, tail⟩, hs, hkind⟩ := hlast
    obtain ⟨front, hfront⟩ := List.getLast?_eq_some_iff.1 hs
    have hkind : kind = .payload := Decidable.not_not.1 hkind
    subst hkind
    exact ⟨front, tail, congrArg Assembly.mk hfront⟩
  · right
    intro s hs
    exact Decidable.byContradiction fun howned => hlast ⟨s, hs, howned⟩

/-- All that cutting does is to take payload at the end and to put a beginning of it back. -/
theorem shorten_cases (a : Assembly) (limit : Nat) : a.shorten limit = a ∨ ∃ front tail kept,
    a = ⟨front ++ [⟨.payload, tail⟩]⟩ ∧ kept <+: tail ∧ a.shorten limit = push ⟨front⟩ ⟨.payload, kept⟩ := by
  rcases a.payload_or_owned with ⟨front, tail, rfl⟩ | howned
  · rw [shorten_concat]
    split
    · exact .inl rfl
    · exact .inr ⟨front, tail, _, rfl, List.take_prefix _ _, rfl⟩
  · exact .inl (shorten_of_owned howned limit)

/-- Payload at the end is cut at the limit if everything in front of it is within the limit. -/
theorem bytes_shorten_ofList {limit : Nat} {payload : Bytes} (hfront : ∀ s ∈ front, s.IsOwned)
    (hlimit : (front.flatMap (·.bytes)).length ≤ limit) :
    ((ofList (front ++ [⟨.payload, payload⟩])).shorten limit).bytes
      = (front.flatMap (·.bytes) ++ payload).take limit := by
  have hstored : (ofList (front ++ [⟨.payload, payload⟩])).segments
      = front ++ [⟨.payload, payload⟩].filter fun s => ¬ s.IsBlank := by
    rw [ofList, segments_pushAll, List.filter_append, filter_owned hfront, List.nil_append]
  by_cases hpayload : payload = []
  · have hblank : (⟨.payload, payload⟩ : Segment).IsBlank := ⟨rfl, hpayload⟩
    rw [List.filter_cons_of_neg (by simpa using hblank), List.filter_nil, List.append_nil] at hstored
    have hkeep := shorten_of_owned (fun s hs => hfront s (List.mem_of_getLast? (hstored ▸ hs))) limit
    rw [hkeep, bytes, hstored, hpayload, List.append_nil, List.take_of_length_le hlimit]
  · have hkept : ¬ (⟨.payload, payload⟩ : Segment).IsBlank := fun hblank => hpayload hblank.2
    rw [List.filter_cons_of_pos (by simpa using hkept), List.filter_nil] at hstored
    have hwhole : ofList (front ++ [⟨.payload, payload⟩]) = ⟨front ++ [⟨.payload, payload⟩]⟩ :=
      congrArg Assembly.mk hstored
    rw [hwhole, shorten_of_payload hpayload, bytes_push, bytes_mk, List.take_append, List.take_of_length_le hlimit,
      ← length_bytes, bytes_mk]

end Segments

/-! ## The segments in front -/

/-- A datagram starts with segments built here. -/
structure StartsWith (a : Assembly) (front : List Segment) : Prop where
  owned : ∀ s ∈ front, s.IsOwned
  opens : front <+: a.segments

section StartsWith

variable {a : Assembly} {front : List Segment}

theorem StartsWith.push (h : a.StartsWith front) (s : Segment) : (a.push s).StartsWith front := by
  refine ⟨h.owned, ?_⟩
  unfold Assembly.push
  split
  · exact h.opens
  · exact h.opens.trans (List.prefix_append _ _)

theorem StartsWith.append (h : a.StartsWith front) (body : Assembly) : (a ++ body).StartsWith front := by
  refine ⟨h.owned, h.opens.trans ?_⟩
  show a.segments <+: (a.pushAll body.segments).segments
  rw [segments_pushAll]
  exact List.prefix_append _ _

theorem startsWith_pushAll (hfront : ∀ s ∈ front, s.IsOwned) (rest : List Segment) :
    (Assembly.pushAll {} (front ++ rest)).StartsWith front := by
  refine ⟨hfront, ?_⟩
  rw [segments_pushAll, List.filter_append, filter_owned hfront, List.nil_append]
  exact List.prefix_append _ _

theorem startsWith_ofList {kind : Segment.Kind} (h : kind ≠ .payload) (bytes : Bytes) (rest : List Segment) :
    (ofList (⟨kind, bytes⟩ :: rest)).StartsWith [⟨kind, bytes⟩] := startsWith_pushAll (isOwned_singleton h bytes) rest

/-- Only payload is cut. -/
theorem StartsWith.shorten (h : a.StartsWith front) (limit : Nat) : (a.shorten limit).StartsWith front := by
  rcases a.shorten_cases limit with hsame | ⟨init, tail, kept, rfl, -, hcut⟩
  · exact hsame.symm ▸ h
  · rw [hcut]
    refine StartsWith.push ⟨h.owned, ?_⟩ _
    rcases List.prefix_concat_iff.1 h.opens with hall | hopens
    · have hpayload : (⟨.payload, tail⟩ : Segment) ∈ front := hall ▸ List.mem_concat_self
      exact absurd rfl (h.owned _ hpayload)
    · exact hopens

theorem StartsWith.bytes_eq (h : a.StartsWith front) : ∃ tail, a.bytes = front.flatMap (·.bytes) ++ tail := by
  obtain ⟨tail, htail⟩ := h.opens
  exact ⟨tail.flatMap (·.bytes), by rw [bytes, ← htail, List.flatMap_append]⟩

end StartsWith

/-! ## Checksums -/

/-- A segment is changed if it is there and is owned, and if the change applies to its bytes. -/
theorem modify?_eq_some {a b : Assembly} {index : Nat} {change : Bytes → Option Bytes} :
    a.modify? index change = some b ↔ ∃ s bytes, a.segments[index]? = some s ∧ s.IsOwned ∧ change s.bytes = some bytes
      ∧ b = ⟨a.segments.set index { s with bytes }⟩ := by
  simp only [modify?, Option.bind_eq_bind, Option.bind_eq_some_iff]
  constructor
  · rintro ⟨s, hs, hb⟩
    split at hb
    · rename_i howned
      obtain ⟨bytes, hbytes, hb⟩ := Option.bind_eq_some_iff.1 hb
      cases hb
      exact ⟨s, bytes, hs, howned, hbytes, rfl⟩
    · cases hb
  · rintro ⟨s, bytes, hs, howned, hbytes, rfl⟩
    exact ⟨s, hs, by rw [if_pos howned, hbytes]; rfl⟩

/-- A checksum is written if the segment is there and is owned, and if it has the room. -/
theorem putChecksum_eq_ok_iff {a b : Assembly} {index offset : Nat} {value : UInt16} :
    a.putChecksum index offset value = .ok b ↔ ∃ s, a.segments[index]? = some s ∧ s.IsOwned
      ∧ offset + 2 ≤ s.bytes.length
      ∧ b = ⟨a.segments.set index { s with bytes := Bytes.setWord s.bytes offset value }⟩ := by
  have hwrite : a.putChecksum index offset value = .ok b ↔ a.modify? index (fun bytes =>
      if offset + 2 ≤ bytes.length then some (Bytes.setWord bytes offset value) else none) = some b := by
    unfold putChecksum
    dsimp only
    split
    · rename_i hsome
      rw [hsome, Except.ok.injEq, Option.some.injEq]
    · rename_i hnone
      rw [hnone]
      exact iff_of_false nofun nofun
  rw [hwrite, modify?_eq_some]
  constructor
  · rintro ⟨s, bytes, hs, howned, hbytes, rfl⟩
    obtain ⟨hroom, hset⟩ := Option.ite_none_right_eq_some.1 hbytes
    cases hset
    exact ⟨s, hs, howned, hroom, rfl⟩
  · rintro ⟨s, hs, howned, hroom, rfl⟩
    exact ⟨s, _, hs, howned, if_pos hroom, rfl⟩

/-- The first segment takes a checksum if there is room for it. -/
theorem putChecksum_eq_ok {a b : Assembly} {offset : Nat} {value : UInt16} (h : a.putChecksum 0 offset value = .ok b) :
    offset + 2 ≤ a.bytes.length ∧ b.bytes = Bytes.setWord a.bytes offset value := by
  obtain ⟨s, hs, -, hroom, rfl⟩ := putChecksum_eq_ok_iff.1 h
  obtain ⟨_ | ⟨first, rest⟩⟩ := a
  · cases hs
  · cases hs
    rw [List.set_cons_zero, bytes_mk, bytes_mk, List.flatMap_cons, List.flatMap_cons, List.length_append]
    exact ⟨by omega, (Bytes.setWord_append_left hroom value).symm⟩

/-- A segment in front that was built here takes a checksum that fits into it. -/
theorem StartsWith.putChecksum {a : Assembly} {kind : Segment.Kind} {header : Bytes} {offset : Nat}
    (h : a.StartsWith [⟨kind, header⟩]) (hroom : offset + 2 ≤ header.length) (value : UInt16) :
    ∃ b, a.putChecksum 0 offset value = .ok b := by
  obtain ⟨rest, hrest⟩ := h.opens
  have hsegment : a.segments[0]? = some ⟨kind, header⟩ := hrest ▸ rfl
  exact ⟨_, putChecksum_eq_ok_iff.2 ⟨_, hsegment, h.owned _ (List.mem_singleton_self _), hroom, rfl⟩⟩

theorem checksumFrom_eq (a : Assembly) {pseudo : Nat} {front : Bytes} (h : Checksum.StandsFor pseudo front) :
    a.checksumFrom 0 pseudo = Checksum.ofBytes (front ++ a.bytes) := by
  have hchecksum := h.checksum_addSegments (a.segments.map (·.bytes))
  rw [← List.flatMap_def] at hchecksum
  exact hchecksum

/-! ## Sizes -/

/-- A datagram has at most so many segments, and at most so many bytes. -/
structure Within (a : Assembly) (segments bytes : Nat) : Prop where
  segments_le : a.segments.length ≤ segments
  size_le : a.size ≤ bytes

section Within

variable {a b : Assembly} {m n : Nat}

theorem within_self (a : Assembly) : a.Within a.segments.length a.size := ⟨Nat.le_refl _, Nat.le_refl _⟩

theorem Within.mono (h : a.Within m n) {m' n' : Nat} (hm : m ≤ m') (hn : n ≤ n') : a.Within m' n' :=
  ⟨Nat.le_trans h.segments_le hm, Nat.le_trans h.size_le hn⟩

theorem Within.pushAll (h : a.Within m n) (segments : List Segment) :
    (a.pushAll segments).Within (m + segments.length) (n + (segments.flatMap (·.bytes)).length) := by
  refine ⟨?_, ?_⟩
  · rw [segments_pushAll, List.length_append]
    exact Nat.add_le_add h.segments_le (List.length_filter_le _ segments)
  · rw [← length_bytes, bytes_pushAll, List.length_append, length_bytes]
    exact Nat.add_le_add_right h.size_le _

theorem Within.push (h : a.Within m n) (s : Segment) : (a.push s).Within (m + 1) (n + s.bytes.length) := by
  have hall := h.pushAll [s]
  rwa [List.flatMap_singleton] at hall

theorem within_ofList (segments : List Segment) :
    (ofList segments).Within segments.length (segments.flatMap (·.bytes)).length := by
  have hall := (within_self {}).pushAll segments
  rwa [List.length_nil, ← length_bytes, bytes_mk, List.flatMap_nil, List.length_nil, Nat.zero_add, Nat.zero_add] at hall

theorem Within.append (h : a.Within m n) {m' n' : Nat} (hb : b.Within m' n') : (a ++ b).Within (m + m') (n + n') := by
  have hsize := hb.size_le
  rw [← length_bytes, bytes] at hsize
  exact (h.pushAll b.segments).mono (Nat.add_le_add_left hb.segments_le m) (Nat.add_le_add_left hsize n)

/-- Cutting adds nothing. -/
theorem Within.shorten (h : a.Within m n) (limit : Nat) : (a.shorten limit).Within m n := by
  rcases a.shorten_cases limit with hsame | ⟨init, tail, kept, rfl, hkept, hcut⟩
  · exact hsame.symm ▸ h
  · rw [hcut]
    have hsegments := h.segments_le
    have hsize := h.size_le
    rw [List.length_append] at hsegments
    rw [size_concat] at hsize
    exact ((within_self ⟨init⟩).push _).mono hsegments (Nat.le_trans (Nat.add_le_add_left hkept.length_le _) hsize)

theorem Within.putChecksum {offset : Nat} {value : UInt16} (h : a.Within m n)
    (hb : a.putChecksum 0 offset value = .ok b) : b.Within m n := by
  obtain ⟨hroom, hbytes⟩ := putChecksum_eq_ok hb
  obtain ⟨s, -, -, -, rfl⟩ := putChecksum_eq_ok_iff.1 hb
  refine ⟨?_, ?_⟩
  · rw [List.length_set]
    exact h.segments_le
  · rw [← length_bytes, hbytes, Bytes.length_setWord hroom, length_bytes]
    exact h.size_le

end Within

end Assembly

end Nat64
