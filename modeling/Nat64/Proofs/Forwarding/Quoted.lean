import Nat64.Proofs.Forwarding.Errors

/-!
# Checksums of quoted datagrams

An error quotes the front of the datagram it is about, and the rest of that datagram is nowhere to be read. Still, the
checksum in the quotation becomes the one that the whole datagram has on the other side.

* `Carries`: a datagram with its message.
* `QuotesChecksum`: what an error that quotes the front of it says on the other side.
* `Gateway.quoted_checksum`: it says the checksum of the whole message, computed from scratch.
-/

namespace Nat64

/-- A datagram of a family carries a whole TCP or UDP message behind `size` bytes, and the message verifies. -/
def Carries : Family → Bytes → Nat → Transport → Bytes → Prop
  | .ipv4, datagram, size, t, message => ∃ h, IPv4.Header.decode datagram = .ok h ∧ h.protocol = t.number ∧
    h.headerLength = size ∧ h.totalLength.toNat = size + message.length ∧
    Bytes.slice datagram size message.length = message ∧
    Checksum.Verifies (Checksum.pseudoHeader4 h.src h.dst t.number message.length ++ message)
  | .ipv6, datagram, size, t, message => ∃ h, IPv6.Header.decode datagram = .ok h ∧ h.nextHeader = t.number ∧
    size = 40 ∧ h.payloadLength.toNat = message.length ∧ Bytes.slice datagram size message.length = message ∧
    Checksum.Verifies (Checksum.pseudoHeader6 h.src h.dst t.number message.length ++ message)

/-- A packet of a family, built here without options, quotes a datagram whose checksum is that of a whole message under
the addresses and the length that the quotation declares. -/
def QuotesChecksum : Family → Bytes → Transport → Bytes → Prop
  | .ipv4, packet, t, message => ∃ h, IPv4.Header.decode (packet.drop 28) = .ok h ∧
    28 + h.headerLength + t.checksumOffset + 2 ≤ packet.length ∧
    Bytes.wordAt packet (28 + h.headerLength + t.checksumOffset) = Checksum.recomputed t
      (Checksum.pseudoHeader4 h.src h.dst t.number (h.totalLength.toNat - h.headerLength)) message
  | .ipv6, packet, t, message => ∃ h, IPv6.Header.decode (packet.drop 48) = .ok h ∧
    88 + t.checksumOffset + 2 ≤ packet.length ∧
    Bytes.wordAt packet (88 + t.checksumOffset) = Checksum.recomputed t
      (Checksum.pseudoHeader6 h.src h.dst t.number h.payloadLength.toNat) message

namespace Forwarding

/-! ## What a quotation shows -/

/-- A field that a truncated datagram still shows is the one of the whole message. -/
theorem wordAt_visible {datagram message : Bytes} {size n offset : Nat}
    (hmessage : Bytes.slice datagram size message.length = message) (hfield : offset + 2 ≤ message.length)
    (hn : size + offset + 2 ≤ n) :
    offset + 2 ≤ (Bytes.slice (datagram.take n) size message.length).length ∧
      Bytes.wordAt (Bytes.slice (datagram.take n) size message.length) offset = Bytes.wordAt message offset := by
  have hlength := Bytes.le_of_slice hmessage
  constructor
  · simp only [Bytes.slice, List.length_take, List.length_drop]
    omega
  · have hslice (data : Bytes) : Bytes.wordAt (Bytes.slice data size message.length) offset
        = Bytes.wordAt data (size + offset) := by
      rw [Bytes.slice, Bytes.wordAt_take hfield, Bytes.wordAt_drop]
    have hwhole := hslice datagram
    rw [hmessage] at hwhole
    rw [hslice, hwhole, Bytes.wordAt_take (by omega)]

/-- The checksum of a quoted message is adjusted where it is. -/
theorem wordAt_requoted {t : Transport} {message : Bytes} (h : t.checksumOffset + 2 ≤ message.length) (family : Family)
    (adjust : UInt16 → UInt16) :
    t.checksumOffset + 2 ≤ ((Cargo.transport t).requoted family adjust message).length ∧
      Bytes.wordAt ((Cargo.transport t).requoted family adjust message) t.checksumOffset
        = adjust (Bytes.wordAt message t.checksumOffset) := by
  rw [Cargo.requoted, if_pos h]
  constructor
  · rw [Bytes.length_setWord h]
    exact h
  · exact Bytes.wordAt_setWord h _

/-- A field of what stands behind two headers. -/
theorem wordAt_behind {packet header field : Bytes} {n offset : Nat} (hpacket : packet.drop n = header ++ field)
    (hfield : offset + 2 ≤ field.length) : n + header.length + offset + 2 ≤ packet.length ∧
      Bytes.wordAt packet (n + header.length + offset) = Bytes.wordAt field offset := by
  have hlength := congrArg List.length hpacket
  rw [List.length_drop, List.length_append] at hlength
  constructor
  · omega
  · rw [Nat.add_assoc, ← Bytes.wordAt_drop, hpacket, Bytes.wordAt_append_right (by omega), Nat.add_sub_cancel_left]

section Directions

variable {p : Prefix} {now : Nat} {t t' : LeaseTable} {k : Transport} {datagram message packet : Bytes} {size n : Nat}
  {d : Datagram}

theorem quotesChecksum_toIPv4 (hcarries : Carries .ipv6 datagram size k message)
    (hudp : k = .udp → Bytes.wordAt message k.checksumOffset ≠ 0) (hfield : k.checksumOffset + 2 ≤ message.length)
    (hn : size + k.checksumOffset + 2 ≤ n) (hquotes : Quotes .ipv6 packet (datagram.take n))
    (h : toIPv4 p now packet t = (.ok (.forward d), t')) : QuotesChecksum .ipv4 d.body.bytes k message := by
  obtain ⟨original, horiginal, hnumber, rfl, hlength, hmessage, hverifies⟩ := hcarries
  obtain ⟨inner, cargo, dst, hinner, hcargo, -, hfits, hbytes⟩ := quotation_ipv4 (errorInIPv4_of_forward hquotes h)
  rw [IPv6.Header.decode_take horiginal (by omega), Except.ok.injEq] at hinner
  subst hinner
  cases Cargo.eq_transport (hnumber.symm.trans hcargo)
  obtain ⟨hvisible, hword⟩ := wordAt_visible hmessage hfield hn
  rw [hlength] at hfits hbytes
  let pseudo : Checksum.PseudoHeaders :=
    { src6 := original.src, dst6 := original.dst, src4 := p.extract original.src, dst4 := dst
      protocol := k.number, length := original.payloadLength }
  let header := original.inIPv4 k.number original.hopLimit message.length (p.extract original.src) dst
  have htotal : header.totalLength.toNat - 20 = message.length := by
    have hsum : header.totalLength.toNat = 20 + message.length :=
      UInt16.toNat_ofNat'.trans (Nat.mod_eq_of_lt (Nat.lt_succ_of_le hfits))
    omega
  rw [← hlength] at hverifies
  have hsrc : Checksum.Verifies
      (Checksum.pseudoHeader6 pseudo.src6 pseudo.dst6 k.number pseudo.length.toNat ++ message) := hverifies
  have hnew := Checksum.PseudoHeaders.toIPv4_eq (p := pseudo) rfl hfield hudp hsrc
  obtain ⟨hroom, hadjusted⟩ := wordAt_requoted hvisible .ipv4 pseudo.toIPv4
  obtain ⟨hend, hfound⟩ := wordAt_behind hbytes hroom
  rw [IPv4.HeaderFields.length_encode] at hend hfound
  refine ⟨header.header, ?_, hend, hfound.trans ?_⟩
  · rw [hbytes]
    exact header.decode_encode _
  · refine (hadjusted.trans ((congrArg pseudo.toIPv4 hword).trans hnew)).trans ?_
    show _ = Checksum.recomputed k (Checksum.pseudoHeader4 _ _ k.number (header.totalLength.toNat - 20)) message
    rw [htotal, ← hlength]
    rfl

theorem quotesChecksum_toIPv6 (hcarries : Carries .ipv4 datagram size k message)
    (hudp : k = .udp → Bytes.wordAt message k.checksumOffset ≠ 0) (hfield : k.checksumOffset + 2 ≤ message.length)
    (hn : size + k.checksumOffset + 2 ≤ n) (hquotes : Quotes .ipv4 packet (datagram.take n))
    (h : toIPv6 p now packet t = (.ok (.forward d), t')) : QuotesChecksum .ipv6 d.body.bytes k message := by
  obtain ⟨original, horiginal, hnumber, rfl, htotal, hmessage, hverifies⟩ := hcarries
  obtain ⟨inner, length, cargo, src, hinner, hlength, hcargo, -, hbytes⟩ :=
    quotation_ipv6 (errorInIPv6_of_forward hquotes h)
  rw [IPv4.Header.decode_take horiginal (by omega), Except.ok.injEq] at hinner
  subst hinner
  cases Cargo.eq_transport (hnumber.symm.trans hcargo)
  rw [htotal, Nat.add_left_cancel_iff] at hlength
  subst hlength
  obtain ⟨hvisible, hword⟩ := wordAt_visible hmessage hfield hn
  let pseudo : Checksum.PseudoHeaders :=
    { src6 := src, dst6 := p.embed original.dst, src4 := original.src, dst4 := original.dst
      protocol := k.number, length := UInt16.ofNat message.length }
  have hpseudo : pseudo.length.toNat = message.length := by
    have hlt := original.totalLength.toNat_lt
    exact UInt16.toNat_ofNat'.trans (Nat.mod_eq_of_lt (by omega))
  have hsrc : Checksum.Verifies
      (Checksum.pseudoHeader4 pseudo.src4 pseudo.dst4 k.number pseudo.length.toNat ++ message) := by
    rw [hpseudo]
    exact hverifies
  let adjust (old : UInt16) : UInt16 := (pseudo.toIPv6? old).getD old
  have hnew : adjust (Bytes.wordAt message k.checksumOffset) = Checksum.recomputed k
      (Checksum.pseudoHeader6 src (p.embed original.dst) k.number pseudo.length.toNat) message := by
    simp only [adjust, Checksum.PseudoHeaders.toIPv6?_eq (p := pseudo) rfl hfield hudp hsrc, Option.getD_some]
    rfl
  obtain ⟨hroom, hadjusted⟩ := wordAt_requoted hvisible .ipv6 adjust
  have hoffset : k.checksumOffset + 2 ≤ minimumMtu - 88 := by cases k <;> decide
  obtain ⟨hend, hfound⟩ := wordAt_behind hbytes ((Nat.le_min.2 ⟨hoffset, hroom⟩).trans_eq List.length_take.symm)
  rw [IPv6.Header.length_encode] at hend hfound
  rw [Bytes.wordAt_take hoffset] at hfound
  refine ⟨original.inIPv6 k.number original.ttl message.length src (p.embed original.dst), ?_, hend, hfound.trans ?_⟩
  · rw [hbytes]
    exact IPv6.Header.decode_encode _ _
  · exact hadjusted.trans ((congrArg adjust hword).trans hnew)

end Directions

end Forwarding

/-- Whichever way an error is forwarded: if the datagram it is about carries TCP, or UDP with a checksum, and verifies
as a whole, and the quotation goes as far as the checksum, then the checksum in the new quotation is that of the whole
message from scratch, under the addresses and the length that the new quotation declares. -/
theorem Gateway.quoted_checksum {g : Gateway} {now : Nat} {family : Family} {k : Transport}
    {datagram message packet : Bytes} {size n : Nat} {d : Datagram} (hcarries : Carries family datagram size k message)
    (hudp : k = .udp → Bytes.wordAt message k.checksumOffset ≠ 0) (hfield : k.checksumOffset + 2 ≤ message.length)
    (hn : size + k.checksumOffset + 2 ≤ n) (hquotes : Quotes family packet (datagram.take n))
    (hforward : (g.translateAs now family packet).1 = .ok (.forward d)) :
    QuotesChecksum family.other d.body.bytes k message := by
  have hdrop : ∀ reason, Outcome.forward d ≠ .drop reason := fun _ => Outcome.noConfusion
  cases family with
  | ipv4 =>
    exact Forwarding.quotesChecksum_toIPv6 hcarries hudp hfield hn hquotes
      ((Forwarding.settle_fst_eq_ok hdrop).1 hforward)
  | ipv6 =>
    exact Forwarding.quotesChecksum_toIPv4 hcarries hudp hfield hn hquotes
      ((Forwarding.settle_fst_eq_ok hdrop).1 hforward)

/-- A TCP message of five bytes from `203.0.113.5` to `2001:db8::1`, as the translator sent it. -/
def sampleMessage : Bytes :=
  [0, 80, 4, 0xd2, 0, 0, 0, 1, 0, 0, 0, 2, 0x50, 0x10, 2, 0, 0xfb, 0x18, 0, 0, 0x68, 0x65, 0x6c, 0x6c, 0x6f]

/-- The datagram that carried it. -/
def sampleDatagram : Bytes :=
  [0x60, 0, 0, 0, 0, 25, 6, 64,
    0, 0x64, 0xff, 0x9b, 0, 0, 0, 0, 0, 0, 0, 0, 203, 0, 113, 5,
    0x20, 0x01, 0x0d, 0xb8, 0, 0, 0, 0, 0, 0, 0, 0, 0, 0, 0, 1] ++ sampleMessage

/-- An error that quotes it up to its checksum: nobody listens. -/
def sampleError : Bytes :=
  [0x60, 0, 0, 0, 0, 66, 58, 64,
    0x20, 0x01, 0x0d, 0xb8, 0, 0, 0, 0, 0, 0, 0, 0, 0, 0, 0, 1,
    0, 0x64, 0xff, 0x9b, 0, 0, 0, 0, 0, 0, 0, 0, 203, 0, 113, 5,
    1, 4, 0, 0, 0, 0, 0, 0] ++ sampleDatagram.take 58

/-- A gateway with one address. -/
def sampleGateway : Gateway := { leases := { free := (∅ : Pool).insert (IPv4.ofNat 0xc0000201) } }

set_option maxRecDepth 2000 in
theorem Gateway.quoted_checksum_sample :
    ∃ d, (sampleGateway.translateAs 0 .ipv6 sampleError).1 = .ok (.forward d) ∧
      QuotesChecksum .ipv4 d.body.bytes .tcp sampleMessage := by
  obtain ⟨d, hforward⟩ : ∃ d, (sampleGateway.translateAs 0 .ipv6 sampleError).1 = .ok (.forward d) := ⟨_, rfl⟩
  have hcarries : Carries .ipv6 sampleDatagram 40 .tcp sampleMessage := ⟨_, rfl, rfl, rfl, rfl, rfl, rfl⟩
  have hquotes : Quotes .ipv6 sampleError (sampleDatagram.take 58) := ⟨_, rfl, rfl, rfl, rfl⟩
  exact ⟨d, hforward,
    quoted_checksum hcarries (fun h => Transport.noConfusion h) (by decide) (by decide) hquotes hforward⟩

end Nat64
