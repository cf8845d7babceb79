import Nat64.Proofs.Forwarding.Errors
import Nat64.Proofs.Forwarding.WellFormed

/-!
# How large datagrams get

However long the buffer is, a packet is cut to the length that it declares in 16 bits, and everything that is built is
bounded by that: five segments at the most, and a few headers more than the message received.

* `IPv6.Packet.payload_le`, `IPv4.Packet.payload_le`: what is read.
* `within_quoteIPv4`, `within_quoteIPv6`, `within_body4`: what is built.
* `within_body6`: what is built for IPv6 always fits its length field.
-/

namespace Nat64

section Packets

variable {level : Level} {data : Bytes}

theorem IPv6.Packet.payload_le {packet : IPv6.Packet} (h : IPv6.Packet.decode level data = .ok packet) :
    packet.payload.length ≤ packet.payloadLength := by
  rw [payload_eq h, Bytes.slice]
  exact List.length_take_le _ _

theorem IPv4.Packet.payload_le {packet : IPv4.Packet} (h : IPv4.Packet.decode level data = .ok packet) :
    packet.payload.length ≤ packet.payloadLength := by
  rw [payload_eq h, Bytes.slice]
  exact List.length_take_le _ _

theorem IPv6.Packet.payloadLength_lt (packet : IPv6.Packet) : packet.payloadLength < 0x10000 :=
  packet.header.payloadLength.toNat_lt

theorem IPv4.Packet.payloadLength_lt {packet : IPv4.Packet} (h : IPv4.Packet.decode level data = .ok packet) :
    packet.payloadLength < 0x10000 := by
  have htotal := (decode_eq_ok.1 h).2.1
  have hword := packet.header.totalLength.toNat_lt
  omega

end Packets

/-- A quoted message keeps its length. -/
theorem Cargo.length_requoted {family family' : Family} {message : Bytes} {c : Cargo} (h : c.Shows family' message)
    (adjust : UInt16 → UInt16) : (c.requoted family adjust message).length = message.length := by
  cases c with
  | transport t =>
    rw [requoted]
    split
    · exact Bytes.length_setWord ‹_› _
    · rfl
  | echo e => exact Icmp.Echo.length_bytes (Nat.le_trans (by decide) h.1) family e _

namespace Forwarding

variable {p : Prefix} {now : Nat} {t t' : LeaseTable} {data : Bytes} {message : Bytes} {body whole : Assembly}

/-! ## Messages -/

theorem within_transportBody {k : Transport} {pseudo : Nat} (h : transportBody k message pseudo = .ok body) :
    body.Within 2 message.length := by
  obtain ⟨n, hn, hput⟩ := Except.bind_eq_ok.1 h
  have hroom := Transport.checksum_in_header hn
  have hbody := Assembly.within_ofList
    [⟨.transport, Bytes.setWord (message.take n) k.checksumOffset 0⟩, ⟨.payload, message.drop n⟩]
  rw [List.flatMap_cons, List.flatMap_singleton, List.length_append, Bytes.length_setWord hroom, ← List.length_append,
    List.take_append_drop] at hbody
  exact hbody.putChecksum hput

theorem BuiltOf.within (h : BuiltOf body message) : body.Within 2 message.length := by
  obtain ⟨kind, header, rest, -, -, rfl, rfl⟩ := h
  refine (Assembly.within_ofList _).mono (Nat.le_refl 2) ?_
  rw [List.flatMap_cons, List.flatMap_singleton]

theorem within_messageFront (c : Icmp.Counterpart) : (messageFront c).Within 1 8 :=
  (Assembly.within_ofList [⟨.icmp, (c.header 0).encode⟩]).mono (Nat.le_refl 1)
    (by rw [List.flatMap_singleton, Icmp.Header.length_encode])

/-! ## To IPv4 -/

theorem within_quotedBody4 {packet : IPv6.Packet} {content : Content} (h : admit6 .quoted packet = .ok content)
    (src dst : IPv4) : (quotedBody4 packet content src dst).Within 2 packet.payload.length := by
  obtain ⟨cargo, -, hshows, rfl⟩ := classify_quoted_eq_ok h
  have hbody := (builtOf_quotedBody4 hshows src dst).within
  rwa [Cargo.length_requoted hshows] at hbody

theorem within_quoteIPv4 (h : quoteIPv4 p now data t = (.ok whole, t')) : whole.Within 3 0x10020 := by
  obtain ⟨packet, content, dst, hpacket, hcontent, -, hwrap⟩ := quoteIPv4_eq_ok.1 h
  obtain ⟨-, rfl⟩ := wrap4_eq_ok.1 hwrap
  have hpayload := IPv6.Packet.payload_le hpacket
  have hlt := packet.payloadLength_lt
  have hbody := within_quotedBody4 hcontent (p.extract packet.header.src) dst
  refine ((Assembly.within_ofList _).append hbody).mono (Nat.le_refl 3) ?_
  rw [List.flatMap_singleton, IPv4.HeaderFields.length_encode]
  omega

theorem within_messageBody4 {c : Icmp.Counterpart} {rest : Bytes} (h : messageBody4 p now c rest t = (.ok body, t'))
    (hrest : rest.length < 0x10000) : body.Within 4 0x10028 := by
  rcases messageBody4_eq_ok.1 h with ⟨-, rfl, -⟩ | ⟨-, quoted, hquoted, rfl⟩
  · exact ((within_messageFront c).push ⟨.payload, rest⟩).mono (by decide) (by simp only; omega)
  · exact (within_messageFront c).append (within_quoteIPv4 hquoted)

theorem within_body4 {packet : IPv6.Packet} {content : Content} {src dst : IPv4} {level : Level}
    (hpacket : IPv6.Packet.decode level data = .ok packet)
    (h : body4 p now packet content src dst t = (.ok body, t')) : body.Within 4 0x10028 := by
  have hpayload := IPv6.Packet.payload_le hpacket
  have hlt := packet.payloadLength_lt
  cases content with
  | transport k =>
    obtain ⟨htransport, -⟩ := liftFault_eq_ok.1 h
    exact (within_transportBody htransport).mono (by decide) (by omega)
  | message h' c =>
    obtain ⟨front, s, hfront, hseal⟩ := bind_eq_ok.1 h
    obtain ⟨hseal, -⟩ := liftFault_eq_ok.1 hseal
    have hrest : (packet.payload.drop Icmp.Header.size).length < 0x10000 := by
      rw [List.length_drop]
      omega
    exact (within_messageBody4 hfront hrest).putChecksum hseal

/-! ## To IPv6 -/

theorem within_quotedBody6 {packet : IPv4.Packet} {content : Content}
    (h : Content.classify .ipv4 .quoted packet.header.protocol packet.payload = .ok content) (src dst : IPv6) :
    (quotedBody6 packet content src dst).Within 2 packet.payload.length := by
  obtain ⟨cargo, -, hshows, rfl⟩ := classify_quoted_eq_ok h
  have hbody := (builtOf_quotedBody6 hshows src dst).within
  rwa [Cargo.length_requoted hshows] at hbody

theorem within_quoteIPv6 (h : quoteIPv6 p now data t = (.ok whole, t')) : whole.Within 3 0x10028 := by
  obtain ⟨packet, content, src, hadm, -, hwrap⟩ := quoteIPv6_eq_ok.1 h
  obtain ⟨hpacket, -, -, hcontent⟩ := admit4_eq_ok.1 hadm
  obtain ⟨-, rfl⟩ := wrap6_eq_ok.1 hwrap
  have hpayload := IPv4.Packet.payload_le hpacket
  have hlt := IPv4.Packet.payloadLength_lt hpacket
  have hbody := within_quotedBody6 hcontent src (p.embed packet.header.dst)
  refine ((Assembly.within_ofList _).append hbody).mono (Nat.le_refl 3) ?_
  rw [List.flatMap_singleton, IPv6.Header.length_encode]
  omega

/-- An error is cut so that it passes every link; any other control message is as long as it was. -/
theorem within_messageBody6 {c : Icmp.Counterpart} {rest : Bytes} (h : messageBody6 p now c rest t = (.ok body, t')) :
    body.Within 4 (max (8 + rest.length) (errorLimit - IPv6.Header.size)) := by
  rcases messageBody6_eq_ok.1 h with ⟨-, rfl, -⟩ | ⟨-, quoted, hquoted, rfl⟩
  · exact ((within_messageFront c).push ⟨.payload, rest⟩).mono (by decide) (Nat.le_max_left _ _)
  · obtain ⟨inner, length, cargo, src, -, -, -, -, -, -, hbytes⟩ := quoteIPv6_bytes c hquoted
    have hsegments :=
      (((within_messageFront c).append (within_quoteIPv6 hquoted)).shorten (errorLimit - IPv6.Header.size)).1
    refine ⟨hsegments, Nat.le_trans ?_ (Nat.le_max_right _ _)⟩
    rw [← Assembly.length_bytes, hbytes, List.length_append, List.length_append, Icmp.Header.length_encode,
      IPv6.Header.length_encode, List.length_take, errorLimit, minimumMtu, IPv6.Header.size]
    omega

/-- What is built for IPv6 always fits the length field of its header. -/
theorem within_body6 {packet : IPv4.Packet} {content : Content} {src dst : IPv6} {level : Level}
    (hpacket : IPv4.Packet.decode level data = .ok packet)
    (h : body6 p now packet content src dst t = (.ok body, t')) : body.Within 4 0xffff := by
  have hpayload := IPv4.Packet.payload_le hpacket
  obtain ⟨hheader, htotal, -⟩ := IPv4.Packet.decode_eq_ok.1 hpacket
  obtain ⟨-, hmin, -, hread⟩ := IPv4.Header.decode_eq_ok.1 hheader
  have hlow : 20 ≤ packet.header.headerLength := by
    rw [hread]
    exact hmin
  have hword := packet.header.totalLength.toNat_lt
  cases content with
  | transport k =>
    obtain ⟨htransport, -⟩ := liftFault_eq_ok.1 h
    exact (within_transportBody htransport).mono (by decide) (by omega)
  | message h' c =>
    obtain ⟨front, s, hfront, hseal⟩ := bind_eq_ok.1 h
    obtain ⟨hseal, -⟩ := liftFault_eq_ok.1 hseal
    refine ((within_messageBody6 hfront).putChecksum hseal).mono (Nat.le_refl 4) ?_
    rw [List.length_drop, errorLimit, minimumMtu, IPv6.Header.size]
    omega

end Forwarding

end Nat64
