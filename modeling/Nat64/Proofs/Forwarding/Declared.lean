import Nat64.Proofs.Forwarding.Internal
import Nat64.Proofs.Forwarding.Transparent

/-!
# What lies behind a packet

A buffer may be longer than the packet in it: links pad, and buffers are used again. How much of it is the packet, the
packet says itself. What follows has no part in its fate, down to what an answer or an error quotes of it.

* `IPv4.Packet.decode_declared`, `IPv6.Packet.decode_declared`: a packet is read off the bytes that it declares.
* `Gateway.translate_declared`: the same result, and the same leases, whatever follows.
-/

namespace Nat64

/-- The size of the header that a packet of the family opens with. -/
def Family.headerSize : Family → Bytes → Nat
  | .ipv4, packet => IPv4.Header.declaredSize packet
  | .ipv6, _ => IPv6.Header.size

/-- The size of a packet of the family, as its length field declares it. -/
def Family.declaredSize : Family → Bytes → Nat
  | .ipv4, packet => (Bytes.wordAt packet 2).toNat
  | .ipv6, packet => IPv6.Header.size + (Bytes.wordAt packet 4).toNat

/-- The sizes that a packet declares make sense: a header has all its fields, and the packet covers its header. -/
def Family.SaneSizes : Family → Bytes → Prop
  | .ipv4, packet => IPv4.Header.minimum ≤ IPv4.Header.declaredSize packet ∧
      IPv4.Header.declaredSize packet ≤ (Bytes.wordAt packet 2).toNat
  | .ipv6, _ => True

/-! ## Reading -/

theorem IPv6.Packet.decode_declared {data : Bytes} {packet : Packet} (h : decode .outer data = .ok packet) :
    decode .outer (data.take (Family.ipv6.declaredSize data)) = .ok packet := by
  obtain ⟨hheader, hwhole, hbytes⟩ := decode_eq_ok.1 h
  have hsize : Family.ipv6.declaredSize data = Header.size + packet.payloadLength := by
    rw [payloadLength, (Header.decode_eq_ok.1 hheader).2.2]
    rfl
  have hmin : 40 ≤ Header.size + packet.payloadLength := Nat.le_add_right 40 _
  rw [hsize]
  refine decode_eq_ok.2 ⟨Header.decode_take hheader hmin, fun _ => ?_, ?_⟩
  · rw [List.length_take, Nat.min_eq_left (hwhole rfl)]
  · rw [hbytes, List.take_take, Nat.min_self]

theorem IPv4.Packet.decode_declared {data : Bytes} {packet : Packet} (h : decode .outer data = .ok packet) :
    decode .outer (data.take (Family.ipv4.declaredSize data)) = .ok packet := by
  obtain ⟨hheader, htotal, hwhole, hpayload⟩ := decode_eq_ok.1 h
  have hsize : Family.ipv4.declaredSize data = packet.header.totalLength.toNat := by
    rw [(Header.decode_eq_ok.1 hheader).2.2.2]
    rfl
  rw [hsize]
  refine decode_eq_ok.2 ⟨Header.decode_take hheader (by omega), htotal, fun _ => ?_, ?_⟩
  · rw [List.length_take, Nat.min_eq_left (hwhole rfl)]
  · rw [hpayload, List.take_take, Nat.min_self]

/-- Where the sizes make sense and the buffer holds what is declared, there is a packet. -/
theorem IPv6.Packet.exists_decode {data : Bytes} (hversion : (Bytes.byteAt data 0).toNat / 16 = 6)
    (hwhole : Family.ipv6.declaredSize data ≤ data.length) : ∃ packet, decode .outer data = .ok packet := by
  have hsize : Header.size ≤ data.length := Nat.le_trans (Nat.le_add_right _ _) hwhole
  exact ⟨⟨Header.ofBytes data, data.take (Family.ipv6.declaredSize data)⟩, decode_eq_ok.2
    ⟨Header.decode_eq_ok.2 ⟨hsize, hversion, rfl⟩, fun _ => hwhole, rfl⟩⟩

theorem IPv4.Packet.exists_decode {data : Bytes} (hversion : (Bytes.byteAt data 0).toNat / 16 = 4)
    (hsane : Family.ipv4.SaneSizes data) (hwhole : Family.ipv4.declaredSize data ≤ data.length) :
    ∃ packet, decode .outer data = .ok packet := by
  obtain ⟨hmin, hcovers⟩ := hsane
  have hheader : Header.decode data = .ok (Header.ofBytes (Header.declaredSize data) data) :=
    Header.decode_eq_ok.2 ⟨hversion, hmin, Nat.le_trans hcovers hwhole, rfl⟩
  let payload := (data.take (Family.ipv4.declaredSize data)).drop (Header.declaredSize data)
  exact ⟨⟨_, _, payload⟩, decode_eq_ok.2 ⟨hheader, Nat.add_sub_cancel' hcovers, fun _ => hwhole, rfl⟩⟩

theorem IPv4.Packet.saneSizes {data : Bytes} {packet : Packet} (h : decode .outer data = .ok packet) :
    Family.ipv4.SaneSizes data := by
  obtain ⟨hheader, htotal, -, -⟩ := decode_eq_ok.1 h
  obtain ⟨-, hmin, -, hread⟩ := Header.decode_eq_ok.1 hheader
  rw [hread] at htotal
  exact ⟨hmin, Nat.le_trans (Nat.le_add_right _ _) (Nat.le_of_eq htotal)⟩

namespace Forwarding

variable {p : Prefix} {now : Nat} {t : LeaseTable} {data data' : Bytes}

/-- Nothing but the packet is read from the buffer. -/
theorem toIPv4_congr (h : IPv6.Packet.decode .outer data = IPv6.Packet.decode .outer data') :
    toIPv4 p now data = toIPv4 p now data' := by
  rw [toIPv4, h, toIPv4]

theorem toIPv6_congr (h : IPv4.Packet.decode .outer data = IPv4.Packet.decode .outer data') :
    toIPv6 p now data = toIPv6 p now data' := by
  rw [toIPv6, admit4, h, toIPv6, admit4]

theorem toIPv6_of_undecoded {f : Fault} (h : IPv4.Packet.decode .outer data = .error f) (t : LeaseTable) :
    toIPv6 p now data t = (.error (.fault f), t) := by
  rw [toIPv6, admit4, h]
  rfl

end Forwarding

/-! ## Buffers with more behind the packet -/

section Tail

variable {packet : Bytes} {family : Family} {n : Nat}

theorem Frame.length_pos_of_family? (h : Frame.family? packet = some family) : 0 < packet.length := by
  cases packet with
  | nil => cases h
  | cons => exact Nat.succ_pos _

theorem Frame.nibble_of_family? (h : Frame.family? packet = some family) :
    (Bytes.byteAt packet 0).toNat / 16 = family.version.toNat := by
  cases packet with
  | nil => cases h
  | cons opening rest =>
    unfold Frame.family? at h
    split at h
    · rename_i hversion
      cases h
      exact Option.some.inj hversion
    · rename_i hversion
      cases h
      exact Option.some.inj hversion
    · cases h

theorem Frame.family?_append (h : 0 < packet.length) (tail : Bytes) :
    Frame.family? (packet ++ tail) = Frame.family? packet := by
  cases packet with
  | nil => cases h
  | cons => rfl

theorem Frame.family?_of_take (h : Frame.family? (packet.take n) = some family) :
    Frame.family? packet = some family := by
  cases n with
  | zero => cases h
  | succ n =>
    cases packet with
    | nil => exact h
    | cons => exact h

theorem IPv4.Header.declaredSize_append (h : 0 < packet.length) (tail : Bytes) :
    declaredSize (packet ++ tail) = declaredSize packet := by
  rw [declaredSize, Bytes.byteAt_append_left h, declaredSize]

theorem IPv4.Header.declaredSize_take (hn : 0 < n) : declaredSize (packet.take n) = declaredSize packet := by
  rw [declaredSize, Bytes.byteAt_take hn, declaredSize]

theorem Family.declaredSize_append (family : Family) (h : 20 ≤ packet.length) (tail : Bytes) :
    family.declaredSize (packet ++ tail) = family.declaredSize packet := by
  cases family with
  | ipv4 => rw [declaredSize, Bytes.wordAt_append_left (by omega), declaredSize]
  | ipv6 => rw [declaredSize, Bytes.wordAt_append_left (by omega), declaredSize]

theorem IPv4.saneSizes_append (hheader : Header.declaredSize packet ≤ packet.length)
    (h : Family.ipv4.SaneSizes packet) (tail : Bytes) : Family.ipv4.SaneSizes (packet ++ tail) := by
  obtain ⟨hmin, hcovers⟩ := h
  have hmin : 20 ≤ Header.declaredSize packet := hmin
  have hsize := Header.declaredSize_append (by omega : 0 < packet.length) tail
  refine ⟨hsize ▸ hmin, ?_⟩
  rw [hsize, Bytes.wordAt_append_left (by omega)]
  exact hcovers

/-- Sizes that make no sense do not make any with more bytes behind them. -/
theorem IPv4.saneSizes_of_append (hpos : 0 < packet.length) (hheader : Header.declaredSize packet ≤ packet.length)
    {tail : Bytes} (h : Family.ipv4.SaneSizes (packet ++ tail)) : Family.ipv4.SaneSizes packet := by
  obtain ⟨hmin, hcovers⟩ := h
  rw [Header.declaredSize_append hpos] at hmin hcovers
  have hmin : 20 ≤ Header.declaredSize packet := hmin
  rw [Bytes.wordAt_append_left (by omega)] at hcovers
  exact ⟨hmin, hcovers⟩

/-- Nor do they in a packet that was cut where they say. -/
theorem IPv4.saneSizes_of_cut {read : Packet}
    (h : Packet.decode .outer (packet.take (Family.ipv4.declaredSize packet)) = .ok read) :
    Family.ipv4.SaneSizes packet := by
  obtain ⟨hheader, -⟩ := Packet.decode_eq_ok.1 h
  obtain ⟨-, hmin, hsize, -⟩ := Header.decode_eq_ok.1 hheader
  rw [List.length_take] at hsize
  have hcut : 0 < Family.ipv4.declaredSize packet := by omega
  rw [Header.declaredSize_take hcut] at hmin hsize
  exact ⟨hmin, Nat.le_trans hsize (Nat.min_le_left _ _)⟩

end Tail

/-! ## The gateway -/

namespace Gateway

variable {g : Gateway} {now : Nat} {packet : Bytes} {family : Family}

theorem translate_undecoded (g : Gateway) (now : Nat) (packet : Bytes) (hfamily : Frame.family? packet ≠ some .ipv6)
    (h : ∀ read, IPv4.Packet.decode .outer packet ≠ .ok read) :
    ∃ what, g.translate now packet = (.error (.malformed what), g) := by
  rcases hknown : Frame.family? packet with _ | (_ | _)
  · rw [translate, hknown]
    cases Frame.version? packet <;> exact ⟨_, rfl⟩
  · rcases hdecode : IPv4.Packet.decode .outer packet with f | read
    · have hbytes := IPv4.endsIn_decode .outer packet f hdecode
      rw [translate_of_family hknown, translateAs, Forwarding.settle, Forwarding.toIPv6_of_undecoded hdecode]
      cases f with
      | malformed what => exact ⟨what, rfl⟩
      | _ => exact hbytes.elim
    · exact absurd hdecode (h read)
  · exact absurd hknown hfamily

/-- Two buffers in which the same packet is read. -/
theorem translate_of_decoded4 (g : Gateway) (now : Nat) {cut : Bytes} {read : IPv4.Packet}
    (h : IPv4.Packet.decode .outer packet = .ok read) (hcut : IPv4.Packet.decode .outer cut = .ok read) :
    g.translate now packet = g.translate now cut := by
  have hfamily := IPv4.Header.family?_of_decode (IPv4.Packet.decode_eq_ok.1 h).1
  have hfamilyCut := IPv4.Header.family?_of_decode (IPv4.Packet.decode_eq_ok.1 hcut).1
  rw [translate_of_family hfamily, translate_of_family hfamilyCut, translateAs,
    Forwarding.toIPv6_congr (h.trans hcut.symm), translateAs]

theorem translate_of_decoded6 (g : Gateway) (now : Nat) {cut : Bytes} {read : IPv6.Packet}
    (h : IPv6.Packet.decode .outer packet = .ok read) (hcut : IPv6.Packet.decode .outer cut = .ok read) :
    g.translate now packet = g.translate now cut := by
  have hfamily := IPv6.Header.family?_of_decode (IPv6.Packet.decode_eq_ok.1 h).1
  have hfamilyCut := IPv6.Header.family?_of_decode (IPv6.Packet.decode_eq_ok.1 hcut).1
  rw [translate_of_family hfamily, translate_of_family hfamilyCut, translateAs,
    Forwarding.toIPv4_congr (h.trans hcut.symm), translateAs]

/-- What stands behind the declared end of a packet has no part in its fate: neither in the result, down to the last
byte, nor in the leases. If the sizes that an IPv4 packet declares make no sense, it is refused as malformed with and
without what follows; only the words of the complaint may differ. -/
theorem translate_declared (g : Gateway) (now : Nat) (packet : Bytes) (hfamily : Frame.family? packet = some family)
    (hheader : family.headerSize packet ≤ packet.length) (hwhole : family.declaredSize packet ≤ packet.length)
    (tail : Bytes) :
    (family.SaneSizes packet →
      g.translate now (packet ++ tail) = g.translate now (packet.take (family.declaredSize packet))) ∧
    (¬ family.SaneSizes packet → ∃ what what',
      g.translate now (packet ++ tail) = (.error (.malformed what), g) ∧
      g.translate now (packet.take (family.declaredSize packet)) = (.error (.malformed what'), g)) := by
  have hpos := Frame.length_pos_of_family? hfamily
  have hversion := Frame.nibble_of_family? hfamily
  have hlonger : family.declaredSize packet ≤ (packet ++ tail).length :=
    Nat.le_trans hwhole (by rw [List.length_append]; exact Nat.le_add_right _ _)
  rw [← Bytes.byteAt_append_left (b := tail) hpos] at hversion
  -- what is cut off the packet is cut off the longer buffer as well, so one reading serves both
  have hcut : (packet ++ tail).take (family.declaredSize packet) = packet.take (family.declaredSize packet) :=
    List.take_append_of_le_length hwhole
  rw [← hcut]
  cases family with
  | ipv6 =>
    have hsize := Family.declaredSize_append .ipv6 (Nat.le_trans (by decide : 20 ≤ 40) hheader) tail
    refine ⟨fun _ => ?_, fun hinsane => absurd trivial hinsane⟩
    rw [← hsize] at hlonger ⊢
    obtain ⟨read, hread⟩ := IPv6.Packet.exists_decode hversion hlonger
    exact translate_of_decoded6 g now hread (IPv6.Packet.decode_declared hread)
  | ipv4 =>
    constructor
    · intro hsane
      have hsize := Family.declaredSize_append .ipv4 (Nat.le_trans hsane.1 hheader) tail
      rw [← hsize] at hlonger ⊢
      obtain ⟨read, hread⟩ := IPv4.Packet.exists_decode hversion (IPv4.saneSizes_append hheader hsane tail) hlonger
      exact translate_of_decoded4 g now hread (IPv4.Packet.decode_declared hread)
    · intro hinsane
      rw [hcut]
      obtain ⟨what, hlong⟩ := translate_undecoded g now (packet ++ tail)
        (by rw [Frame.family?_append hpos, hfamily]; nofun)
        fun read hread => hinsane (IPv4.saneSizes_of_append hpos hheader (IPv4.Packet.saneSizes hread))
      obtain ⟨what', hshort⟩ := translate_undecoded g now (packet.take (Family.ipv4.declaredSize packet))
        (fun hsix => nomatch hfamily.symm.trans (Frame.family?_of_take hsix))
        fun read hread => hinsane (IPv4.saneSizes_of_cut hread)
      exact ⟨what, what', hlong, hshort⟩

set_option maxRecDepth 4000 in
theorem translate_declared_samples :
    Frame.family? sampleOptions = some .ipv4 ∧ Family.ipv4.headerSize sampleOptions ≤ sampleOptions.length ∧
    Family.ipv4.declaredSize sampleOptions ≤ sampleOptions.length ∧ Family.ipv4.SaneSizes sampleOptions ∧
    sampleLeased.translate 5 (sampleOptions ++ [0x55]) = sampleLeased.translate 5 (sampleOptions.take 33) ∧
    ¬ Family.ipv4.SaneSizes [0x41, 0, 0, 2] ∧ ∃ what what',
      sampleLeased.translate 5 ([0x41, 0, 0, 2] ++ sampleOptions) = (.error (.malformed what), sampleLeased) ∧
      sampleLeased.translate 5 [0x41, 0] = (.error (.malformed what'), sampleLeased) := by
  have hsane : Family.ipv4.SaneSizes sampleOptions := ⟨by decide, by decide⟩
  have hinsane : ¬ Family.ipv4.SaneSizes [0x41, 0, 0, 2] := fun h => absurd h.1 (by decide)
  exact ⟨rfl, by decide, by decide, hsane,
    (translate_declared sampleLeased 5 sampleOptions rfl (by decide) (by decide) [0x55]).1 hsane, hinsane,
    (translate_declared sampleLeased 5 [0x41, 0, 0, 2] rfl (by decide) (by decide) sampleOptions).2 hinsane⟩

end Gateway

end Nat64
