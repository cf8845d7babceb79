import Nat64.Proofs.Forwarding.Messages
import Nat64.Proofs.Header.RoundTrip

/-!
# Datagrams that receivers accept

Whatever goes out, forwarded or as an answer, is a packet of the family of the host it is sent to: the length that it
declares is its own, and every checksum in front of its message and in it verifies.

* `Message.Accepted`: what a host asks of a TCP, UDP or control message.
* `IPv4.Accepted`, `IPv6.Accepted`: what it asks of a packet.
* `accepted_transportBody`, `verifies_sealMessage`: messages built here.
* `Gateway.wellFormed_of_translate`: everything that goes out.
-/

namespace Nat64

/-! ## What receivers ask for -/

/-- A host of a family accepts a message of a protocol under the pseudo-header that goes with its packet. -/
def Message.Accepted (family : Family) (number : UInt8) (pseudo message : Bytes) : Prop :=
  match Protocol.ofNumber? number with
  | some (.transport t) =>
    Checksum.Verifies (pseudo ++ message) ∧ (t = .udp → Bytes.wordAt message t.checksumOffset ≠ 0)
  | some (.icmp f) => f = family ∧ Checksum.Verifies ((match family with | .ipv4 => [] | .ipv6 => pseudo) ++ message)
  | none => False

/-- A host with an IPv4 address accepts a packet. -/
structure IPv4.Accepted (dst : IPv4) (body : Assembly) : Prop where
  opens : ∃ header, body.StartsWith [⟨.ipv4, header⟩] ∧ header.length = 20
  reads : ∃ h, IPv4.Header.decode body.bytes = .ok h ∧ h.dst = dst ∧ h.totalLength.toNat = body.bytes.length ∧
    1 ≤ h.ttl ∧ h.headerLength = 20 ∧ h.moreFragments = false ∧ h.fragmentOffset = 0 ∧
    Message.Accepted .ipv4 h.protocol
      (Checksum.pseudoHeader4 h.src h.dst h.protocol (body.bytes.length - 20)) (body.bytes.drop 20)
  header_verifies : Checksum.Verifies (body.bytes.take 20)

/-- A host with an IPv6 address accepts a packet. -/
structure IPv6.Accepted (dst : IPv6) (body : Assembly) : Prop where
  opens : ∃ header, body.StartsWith [⟨.ipv6, header⟩] ∧ header.length = 40
  reads : ∃ h, IPv6.Header.decode body.bytes = .ok h ∧ h.dst = dst ∧ h.payloadLength.toNat = body.bytes.length - 40 ∧
    1 ≤ h.hopLimit ∧
    Message.Accepted .ipv6 h.nextHeader
      (Checksum.pseudoHeader6 h.src h.dst h.nextHeader (body.bytes.length - 40)) (body.bytes.drop 40)

/-- The host that a datagram is sent to accepts it. -/
def Datagram.WellFormed (d : Datagram) : Prop :=
  match d.destination with
  | .ipv4 dst => IPv4.Accepted dst d.body
  | .ipv6 dst => IPv6.Accepted dst d.body

/-! ## Headers -/

/-- A packet is accepted if its message is, hops are left, and the declared length is that of the message. -/
theorem IPv4.accepted_of_front (header : HeaderFields) {body : Assembly} {message : Bytes}
    (hstart : body.StartsWith [⟨.ipv4, header.encode⟩]) (hbytes : body.bytes = header.encode ++ message)
    (hlength : header.totalLength.toNat = 20 + message.length) (hhops : 1 ≤ header.ttl)
    (hmessage : Message.Accepted .ipv4 header.protocol
      (Checksum.pseudoHeader4 header.src header.dst header.protocol message.length) message) :
    IPv4.Accepted header.dst body := by
  have hfront : header.encode.length = 20 := header.length_encode
  have hwhole : body.bytes.length = 20 + message.length := by
    rw [hbytes, List.length_append, hfront]
  refine {
    opens := ⟨header.encode, hstart, hfront⟩
    reads := ⟨header.header, ?_, rfl, ?_, hhops, rfl, rfl, rfl, ?_⟩
    header_verifies := ?_ }
  · rw [hbytes]
    exact header.decode_encode message
  · rw [hwhole]
    exact hlength
  · rw [hwhole, Nat.add_sub_cancel_left, hbytes, List.drop_left' hfront]
    exact hmessage
  · rw [hbytes, List.take_left' hfront]
    exact header.verifies_encode

theorem IPv6.accepted_of_front (header : Header) {body : Assembly} {message : Bytes}
    (hstart : body.StartsWith [⟨.ipv6, header.encode⟩]) (hbytes : body.bytes = header.encode ++ message)
    (hlength : header.payloadLength.toNat = message.length) (hhops : 1 ≤ header.hopLimit)
    (hmessage : Message.Accepted .ipv6 header.nextHeader
      (Checksum.pseudoHeader6 header.src header.dst header.nextHeader message.length) message) :
    IPv6.Accepted header.dst body := by
  have hfront : header.encode.length = 40 := header.length_encode
  have hwhole : body.bytes.length - 40 = message.length := by
    rw [hbytes, List.length_append, hfront, Nat.add_sub_cancel_left]
  refine { opens := ⟨header.encode, hstart, hfront⟩, reads := ⟨header, ?_, rfl, ?_, hhops, ?_⟩ }
  · rw [hbytes]
    exact header.decode_encode message
  · rw [hwhole]
    exact hlength
  · rw [hwhole, hbytes, List.drop_left' hfront]
    exact hmessage

/-! ## Messages -/

namespace Forwarding

variable {family : Family} {front message : Bytes} {pseudo : Nat}

/-- A TCP or UDP message is accepted under the pseudo-header whose sum it was computed with. -/
theorem accepted_transportBody {t : Transport} {body : Assembly} (h : transportBody t message pseudo = .ok body)
    (hfront : Checksum.StandsFor pseudo front) : Message.Accepted family t.number front body.bytes := by
  obtain ⟨hlength, hbytes⟩ := transportBody_eq_ok h hfront
  have hknown : Protocol.ofNumber? t.number = some (.transport t) := Protocol.ofNumber?_number (.transport t)
  unfold Message.Accepted
  rw [hknown, hbytes]
  refine ⟨Checksum.verifies_recomputed hfront hlength, ?_⟩
  rintro rfl
  rw [Bytes.wordAt_setWord hlength]
  exact Checksum.recomputed_udp_ne_zero front message

theorem length_transportBody {t : Transport} {body : Assembly} (h : transportBody t message pseudo = .ok body)
    (hfront : Checksum.StandsFor pseudo front) : body.bytes.length = message.length := by
  obtain ⟨hlength, hbytes⟩ := transportBody_eq_ok h hfront
  rw [hbytes, Bytes.length_setWord hlength]

section Message

variable {c : Icmp.Counterpart} {body whole : Assembly} {p : Prefix} {now : Nat} {t t' : LeaseTable} {rest : Bytes}

theorem length_sealMessage (h : sealMessage body pseudo = .ok whole) : whole.bytes.length = body.bytes.length := by
  obtain ⟨hlength, hbytes⟩ := Assembly.putChecksum_eq_ok h
  rw [hbytes, Bytes.length_setWord hlength]

/-- A control message is accepted under the pseudo-header whose sum it was computed with. -/
theorem verifies_sealMessage (hstart : body.StartsWith [⟨.icmp, (c.header 0).encode⟩])
    (h : sealMessage body pseudo = .ok whole) (hfront : Checksum.StandsFor pseudo front) :
    Checksum.Verifies (front ++ whole.bytes) := by
  obtain ⟨rest, hrest⟩ := hstart.bytes_eq
  rw [List.flatMap_singleton] at hrest
  rw [sealMessage_eq_ok hrest h hfront]
  exact c.verifies_message hfront rest

theorem startsWith_messageBody4 (h : messageBody4 p now c rest t = (.ok body, t')) :
    body.StartsWith [⟨.icmp, (c.header 0).encode⟩] := by
  rcases messageBody4_eq_ok.1 h with ⟨-, rfl, -⟩ | ⟨-, quoted, -, rfl⟩
  · exact (startsWith_messageFront c).push _
  · exact (startsWith_messageFront c).append _

theorem startsWith_messageBody6 (h : messageBody6 p now c rest t = (.ok body, t')) :
    body.StartsWith [⟨.icmp, (c.header 0).encode⟩] := by
  rcases messageBody6_eq_ok.1 h with ⟨-, rfl, -⟩ | ⟨-, quoted, -, rfl⟩
  · exact (startsWith_messageFront c).push _
  · exact ((startsWith_messageFront c).append _).shorten _

end Message

/-! ## Packets -/

theorem one_le_hops {n : UInt8} (h : ¬ n ≤ 1) : 1 ≤ Level.outer.hops n := by
  have hone : (1 : UInt8).toNat = 1 := rfl
  rw [UInt8.le_iff_toNat_le, hone] at h
  have hsub : (n - 1).toNat = n.toNat - 1 := UInt8.toNat_sub_of_le n 1 (UInt8.le_iff_toNat_le.2 (by omega))
  show 1 ≤ n - 1
  rw [UInt8.le_iff_toNat_le, hsub, hone]
  omega

theorem accepted_wrap4 {packet : IPv6.Packet} {content : Content} {src dst : IPv4} {body whole : Assembly}
    (h : wrap4 .outer packet content src dst body.size body = .ok whole) (hhops : ¬ packet.header.hopLimit ≤ 1)
    (hbody : Message.Accepted .ipv4 (content.number .ipv4)
      (Checksum.pseudoHeader4 src dst (content.number .ipv4) body.bytes.length) body.bytes) :
    IPv4.Accepted dst whole := by
  obtain ⟨hsize, rfl⟩ := wrap4_eq_ok.1 h
  have hlength : (UInt16.ofNat (20 + body.size)).toNat = 20 + body.bytes.length := by
    rw [Assembly.length_bytes]
    exact UInt16.toNat_ofNat'.trans (Nat.mod_eq_of_lt (Nat.lt_succ_of_le hsize))
  exact IPv4.accepted_of_front (header4 .outer packet content src dst body.size)
    ((Assembly.startsWith_ofList (by decide) _ []).append body) (Assembly.bytes_front _ body) hlength
    (one_le_hops hhops) hbody

theorem accepted_wrap6 {packet : IPv4.Packet} {content : Content} {src dst : IPv6} {body whole : Assembly}
    (h : wrap6 .outer packet content src dst body.size body = .ok whole) (hhops : ¬ packet.header.ttl ≤ 1)
    (hbody : Message.Accepted .ipv6 (content.number .ipv6)
      (Checksum.pseudoHeader6 src dst (content.number .ipv6) body.bytes.length) body.bytes) :
    IPv6.Accepted dst whole := by
  obtain ⟨hsize, rfl⟩ := wrap6_eq_ok.1 h
  have hlength : (UInt16.ofNat body.size).toNat = body.bytes.length := by
    rw [Assembly.length_bytes]
    exact UInt16.toNat_ofNat'.trans (Nat.mod_eq_of_lt (Nat.lt_succ_of_le hsize))
  exact IPv6.accepted_of_front (header6 .outer packet content src dst body.size)
    ((Assembly.startsWith_ofList (by decide) _ []).append body) (Assembly.bytes_front _ body) hlength
    (one_le_hops hhops) hbody

/-! ## Forwarded packets -/

theorem accepted_icmp (family : Family) :
    Message.Accepted family (Protocol.icmp family).number front message ↔
      Checksum.Verifies ((match family with | .ipv4 => [] | .ipv6 => front) ++ message) := by
  cases family
  · exact and_iff_right rfl
  · exact and_iff_right rfl

section Forwarded

variable {p : Prefix} {now : Nat} {t t' : LeaseTable} {data : Bytes} {content : Content} {body : Assembly}

theorem accepted_body4 {packet : IPv6.Packet} {src dst : IPv4} (hpacket : IPv6.Packet.decode .outer data = .ok packet)
    (h : body4 p now packet content src dst t = (.ok body, t')) :
    Message.Accepted .ipv4 (content.number .ipv4)
      (Checksum.pseudoHeader4 src dst (content.number .ipv4) body.bytes.length) body.bytes := by
  cases content with
  | transport k =>
    obtain ⟨htransport, -⟩ := liftFault_eq_ok.1 h
    have hlt : packet.payloadLength < 0x10000 := packet.header.payloadLength.toNat_lt
    have hpseudo := Checksum.standsFor_pseudoSum4 src dst k.number hlt
    have hlength : body.bytes.length = packet.payloadLength := by
      rw [length_transportBody htransport hpseudo, IPv6.Packet.length_payload hpacket]
    rw [hlength]
    exact accepted_transportBody htransport hpseudo
  | message h' c =>
    obtain ⟨front, s, hfront, hseal⟩ := bind_eq_ok.1 h
    obtain ⟨hseal, -⟩ := liftFault_eq_ok.1 hseal
    refine (accepted_icmp .ipv4).2 ?_
    exact verifies_sealMessage (startsWith_messageBody4 hfront) hseal Checksum.standsFor_nil

theorem accepted_body6 {packet : IPv4.Packet} {src dst : IPv6} (hpacket : IPv4.Packet.decode .outer data = .ok packet)
    (h : body6 p now packet content src dst t = (.ok body, t')) (hsize : body.size ≤ 0xffff) :
    Message.Accepted .ipv6 (content.number .ipv6)
      (Checksum.pseudoHeader6 src dst (content.number .ipv6) body.bytes.length) body.bytes := by
  cases content with
  | transport k =>
    obtain ⟨htransport, -⟩ := liftFault_eq_ok.1 h
    have hlt : packet.payloadLength < 0x100000000 := by
      have htotal := (IPv4.Packet.decode_eq_ok.1 hpacket).2.1
      have hword := packet.header.totalLength.toNat_lt
      omega
    have hpseudo := Checksum.standsFor_pseudoSum6 src dst k.number hlt
    have hlength : body.bytes.length = packet.payloadLength := by
      rw [length_transportBody htransport hpseudo, IPv4.Packet.length_payload hpacket]
    rw [hlength]
    exact accepted_transportBody htransport hpseudo
  | message h' c =>
    obtain ⟨front, s, hfront, hseal⟩ := bind_eq_ok.1 h
    obtain ⟨hseal, -⟩ := liftFault_eq_ok.1 hseal
    have hlength : front.size = body.bytes.length := by
      rw [length_sealMessage hseal, Assembly.length_bytes]
    rw [hlength] at hseal
    have hlt : body.bytes.length < 0x100000000 := by
      rw [Assembly.length_bytes]
      omega
    refine (accepted_icmp .ipv6).2 ?_
    exact verifies_sealMessage (startsWith_messageBody6 hfront) hseal (Checksum.standsFor_pseudoSum6 src dst _ hlt)

theorem wellFormed_toIPv4 {d : Datagram} (h : toIPv4 p now data t = (.ok (.forward d), t')) : d.WellFormed := by
  obtain ⟨packet, content, src, s, body, hpacket, hhops, -, -, hbody, hwrap, hdest⟩ := toIPv4_eq_forward.1 h
  rw [Datagram.WellFormed, hdest]
  exact accepted_wrap4 hwrap hhops (accepted_body4 hpacket hbody)

theorem wellFormed_toIPv6 {d : Datagram} (h : toIPv6 p now data t = (.ok (.forward d), t')) : d.WellFormed := by
  obtain ⟨packet, content, dst, s, body, d', hd, hadm, -, hbody, hwrap, hdest⟩ := toIPv6_eq_ok.1 h
  cases hd
  obtain ⟨hpacket, -, hhops, -⟩ := admit4_eq_ok.1 hadm
  have hsize := (wrap6_eq_ok.1 hwrap).1
  rw [Datagram.WellFormed, hdest]
  exact accepted_wrap6 hwrap (hhops rfl) (accepted_body6 hpacket hbody hsize)

end Forwarded

/-! ## Answers -/

/-- The header of an answer, in front of a control message that has `length` bytes. -/
def answerHeader (h : IPv6.Header) (length : Nat) : IPv6.Header where
  trafficClass := 0
  flowLabel := 0
  payloadLength := UInt16.ofNat length
  nextHeader := (Protocol.icmp .ipv6).number
  hopLimit := replyHops
  src := h.dst
  dst := h.src

/-- An answer goes back to the sender, with the front of the packet behind a header of its own. -/
theorem timeExceeded?_eq_some {packet : IPv6.Packet} {d : Datagram} (h : timeExceeded? packet = some d) :
    let quoted := packet.bytes.take 1232
    let out := answerHeader packet.header (8 + quoted.length)
    isUnanswerable packet = false ∧ d.destination = .ipv6 packet.header.src ∧ d.body.StartsWith [⟨.ipv6, out.encode⟩] ∧
    d.body.bytes = out.encode ++ (Icmp.Counterpart.error 3 0).message
      (Checksum.pseudoHeader6 out.src out.dst 58 (8 + quoted.length)) quoted := by
  intro quoted out
  unfold timeExceeded? at h
  split at h
  · cases h
  rename_i hanswerable
  rw [Option.some.injEq] at h
  subst h
  have hquoted : quoted.length ≤ 1232 := List.length_take_le ..
  have hpseudo : Checksum.StandsFor _ (Checksum.pseudoHeader6 out.src out.dst 58 (8 + quoted.length)) :=
    Checksum.standsFor_pseudoSum6 out.src out.dst 58 (by omega)
  have hchecksum := hpseudo.checksum_addSegments [(timeExceededHeader 0).encode, quoted]
  rw [List.flatten_cons, List.flatten_singleton] at hchecksum
  refine ⟨by simpa using hanswerable, rfl, Assembly.startsWith_ofList (by decide) _ _, ?_⟩
  rw [Assembly.bytes_ofList, List.flatMap_cons, List.flatMap_cons, List.flatMap_singleton]
  exact congrArg (fun checksum => out.encode ++ ((timeExceededHeader checksum).encode ++ quoted)) hchecksum

/-- The answer to a packet without hops is accepted by its sender. -/
theorem wellFormed_timeExceeded {packet : IPv6.Packet} {d : Datagram} (h : timeExceeded? packet = some d) :
    d.WellFormed := by
  obtain ⟨-, hdestination, hstart, hbytes⟩ := timeExceeded?_eq_some h
  let quoted := packet.bytes.take 1232
  let pseudo := Checksum.pseudoHeader6 packet.header.dst packet.header.src 58 (8 + quoted.length)
  let message := (Icmp.Counterpart.error 3 0).message pseudo quoted
  have hquoted : quoted.length ≤ 1232 := List.length_take_le ..
  have hlength : message.length = 8 + quoted.length := Icmp.Counterpart.length_message _ pseudo quoted
  have hverifies : Checksum.Verifies
      (Checksum.pseudoHeader6 packet.header.dst packet.header.src 58 message.length ++ message) := by
    rw [hlength]
    exact Icmp.Counterpart.verifies_message (Checksum.standsFor_pseudoSum6 _ _ 58 (by omega)) _ quoted
  have hhops : 1 ≤ replyHops := by decide
  rw [Datagram.WellFormed, hdestination]
  refine IPv6.accepted_of_front (answerHeader packet.header _) hstart hbytes ?_ hhops
    ((accepted_icmp .ipv6).2 hverifies)
  show (UInt16.ofNat (8 + quoted.length)).toNat = message.length
  rw [hlength]
  exact UInt16.toNat_ofNat'.trans (Nat.mod_eq_of_lt (by omega))

end Forwarding

theorem Gateway.wellFormed_of_translateAs {g : Gateway} {now : Nat} {family : Family} {packet : Bytes} {d : Datagram}
    (h : (g.translateAs now family packet).1 = .ok (.forward d) ∨
      (g.translateAs now family packet).1 = .ok (.reply d)) :
    d.WellFormed := by
  have hforward : ∀ reason, Outcome.forward d ≠ .drop reason := fun _ => Outcome.noConfusion
  have hreply : ∀ reason, Outcome.reply d ≠ .drop reason := fun _ => Outcome.noConfusion
  cases family with
  | ipv4 =>
    rcases h with h | h
    · exact Forwarding.wellFormed_toIPv6 ((Forwarding.settle_fst_eq_ok hforward).1 h)
    · -- an IPv4 packet is never answered
      obtain ⟨_, _, _, _, _, _, hd, -⟩ := Forwarding.toIPv6_eq_ok.1 ((Forwarding.settle_fst_eq_ok hreply).1 h)
      cases hd
  | ipv6 =>
    rcases h with h | h
    · exact Forwarding.wellFormed_toIPv4 ((Forwarding.settle_fst_eq_ok hforward).1 h)
    · obtain ⟨packet, -, -, hanswer, -⟩ := Forwarding.toIPv4_eq_reply.1 ((Forwarding.settle_fst_eq_ok hreply).1 h)
      exact Forwarding.wellFormed_timeExceeded hanswer

/-- What a gateway sends, forwarded or as an answer, is accepted by the host it is sent to. -/
theorem Gateway.wellFormed_of_translate {g : Gateway} {now : Nat} {packet : Bytes} {d : Datagram}
    (h : (g.translate now packet).1 = .ok (.forward d) ∨ (g.translate now packet).1 = .ok (.reply d)) :
    d.WellFormed := by
  unfold translate at h
  split at h
  · exact wellFormed_of_translateAs h
  · split at h <;> rcases h with h | h <;> cases h

/-- A UDP packet of one byte from `2001:db8::1` to `64:ff9b::203.0.113.5` that has no hops left. -/
def sampleExpired : Bytes :=
  [0x60, 0, 0, 0, 0, 9, 17, 1,
    0x20, 0x01, 0x0d, 0xb8, 0, 0, 0, 0, 0, 0, 0, 0, 0, 0, 0, 1,
    0, 0x64, 0xff, 0x9b, 0, 0, 0, 0, 0, 0, 0, 0, 203, 0, 113, 5,
    0x30, 0x39, 0, 53, 0, 9, 0xab, 0xcd, 0x61]

/-- It is answered, and its sender accepts the answer. -/
theorem Gateway.wellFormed_answer :
    ∃ d, (({} : Gateway).translate 0 sampleExpired).1 = .ok (.reply d) ∧ d.WellFormed := by
  obtain ⟨d, h⟩ : ∃ d, (({} : Gateway).translate 0 sampleExpired).1 = .ok (.reply d) := ⟨_, rfl⟩
  exact ⟨d, h, wellFormed_of_translate (Or.inr h)⟩

end Nat64
