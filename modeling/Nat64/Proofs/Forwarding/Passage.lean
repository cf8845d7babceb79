import Nat64.Proofs.Forwarding.Steps
import Nat64.Proofs.Header

/-!
# The way of a packet

What a packet that is forwarded went through: how it was read, which addresses it was given, and how its message was
rebuilt. Later files read everything about forwarded packets off these statements.

* received packets: `toIPv4_eq_forward`, `toIPv4_eq_reply`, `toIPv6_eq_forward`;
* quoted datagrams: `quoteIPv4_eq_ok`, `quoteIPv6_eq_ok`;
* control messages: `messageBody4_eq_ok`, `messageBody6_eq_ok`.
-/

namespace Nat64

/-! ## Reading packets -/

/-- A received IPv6 packet is whole; a quoted one may be cut short. -/
theorem IPv6.Packet.decode_eq_ok {level : Level} {data : Bytes} {packet : IPv6.Packet} :
    IPv6.Packet.decode level data = .ok packet ↔ IPv6.Header.decode data = .ok packet.header ∧
      (level = .outer → IPv6.Header.size + packet.payloadLength ≤ data.length) ∧
      packet.bytes = data.take (IPv6.Header.size + packet.payloadLength) := by
  obtain ⟨header, bytes⟩ := packet
  simp only [decode, Except.bind_eq_ok, Except.guard_eq_ok, Except.pure_eq_ok, Packet.mk.injEq, payloadLength, not_and,
    Nat.not_lt]
  constructor
  · rintro ⟨_, hheader, hall, rfl, rfl⟩
    exact ⟨hheader, hall, rfl⟩
  · rintro ⟨hheader, hall, rfl⟩
    exact ⟨header, hheader, hall, rfl, rfl⟩

/-- A received IPv4 packet is whole; a quoted one may be cut short. -/
theorem IPv4.Packet.decode_eq_ok {level : Level} {data : Bytes} {packet : IPv4.Packet} :
    IPv4.Packet.decode level data = .ok packet ↔ IPv4.Header.decode data = .ok packet.header ∧
      packet.header.headerLength + packet.payloadLength = packet.header.totalLength.toNat ∧
      (level = .outer → packet.header.totalLength.toNat ≤ data.length) ∧
      packet.payload = (data.take packet.header.totalLength.toNat).drop packet.header.headerLength := by
  obtain ⟨header, length, payload⟩ := packet
  simp only [decode, Except.bind_eq_ok, Except.guard_eq_ok, Except.pure_eq_ok, Packet.mk.injEq,
    Header.payloadLength_eq_ok, not_and, Nat.not_lt]
  constructor
  · rintro ⟨_, hheader, _, hlength, hall, rfl, rfl, rfl⟩
    exact ⟨hheader, hlength, hall, rfl⟩
  · rintro ⟨hheader, hlength, hall, rfl⟩
    exact ⟨header, hheader, length, hlength, hall, rfl, rfl, rfl⟩

namespace Forwarding

variable {p : Prefix} {now : Nat} {t t' : LeaseTable}

/-! ## Looking up -/

theorem leaseFor_eq_ok {host : IPv6} {a : IPv4} :
    leaseFor now host t = (.ok a, t') ↔ t.leaseFor now host = (.ok a, t') := by
  show (((t.leaseFor now host).1.mapError .fault, (t.leaseFor now host).2) : Except Refusal IPv4 × LeaseTable) = _ ↔ _
  rw [mapError_eq_ok, Prod.ext_iff]

theorem findHolder_eq_ok {a : IPv4} {host : IPv6} :
    findHolder now a t = (.ok host, t') ↔ t.findHolder now a = (.ok host, t') := by
  show (((t.findHolder now a).1.mapError .fault, (t.findHolder now a).2) : Except Refusal IPv6 × LeaseTable) = _ ↔ _
  rw [mapError_eq_ok, Prod.ext_iff]

theorem resolve4_outer_eq_ok {h : IPv6.Header} {r : IPv4 × IPv4} :
    resolve4 p now .outer h t = (.ok r, t') ↔ t.leaseFor now h.src = (.ok r.1, t') ∧ r.2 = p.extract h.dst := by
  obtain ⟨src, dst⟩ := r
  simp only [resolve4, bind_eq_ok, leaseFor_eq_ok, pure_eq_ok, Prod.mk.injEq]
  constructor
  · rintro ⟨a, s, ha, ⟨rfl, rfl⟩, rfl⟩
    exact ⟨ha, rfl⟩
  · rintro ⟨ha, rfl⟩
    exact ⟨src, t', ha, ⟨rfl, rfl⟩, rfl⟩

theorem resolve4_quoted_eq_ok {h : IPv6.Header} {r : IPv4 × IPv4} :
    resolve4 p now .quoted h t = (.ok r, t') ↔ r.1 = p.extract h.src ∧ t.leaseFor now h.dst = (.ok r.2, t') := by
  obtain ⟨src, dst⟩ := r
  simp only [resolve4, bind_eq_ok, leaseFor_eq_ok, pure_eq_ok, Prod.mk.injEq]
  constructor
  · rintro ⟨a, s, ha, ⟨rfl, rfl⟩, rfl⟩
    exact ⟨rfl, ha⟩
  · rintro ⟨rfl, ha⟩
    exact ⟨dst, t', ha, ⟨rfl, rfl⟩, rfl⟩

theorem resolve6_outer_eq_ok {h : IPv4.Header} {r : IPv6 × IPv6} :
    resolve6 p now .outer h t = (.ok r, t') ↔ r.1 = p.embed h.src ∧ t.findHolder now h.dst = (.ok r.2, t') := by
  obtain ⟨src, dst⟩ := r
  simp only [resolve6, bind_eq_ok, findHolder_eq_ok, pure_eq_ok, Prod.mk.injEq]
  constructor
  · rintro ⟨a, s, ha, ⟨rfl, rfl⟩, rfl⟩
    exact ⟨rfl, ha⟩
  · rintro ⟨rfl, ha⟩
    exact ⟨dst, t', ha, ⟨rfl, rfl⟩, rfl⟩

theorem resolve6_quoted_eq_ok {h : IPv4.Header} {r : IPv6 × IPv6} :
    resolve6 p now .quoted h t = (.ok r, t') ↔ t.findHolder now h.src = (.ok r.1, t') ∧ r.2 = p.embed h.dst := by
  obtain ⟨src, dst⟩ := r
  simp only [resolve6, bind_eq_ok, findHolder_eq_ok, pure_eq_ok, Prod.mk.injEq]
  constructor
  · rintro ⟨a, s, ha, ⟨rfl, rfl⟩, rfl⟩
    exact ⟨ha, rfl⟩
  · rintro ⟨ha, rfl⟩
    exact ⟨src, t', ha, ⟨rfl, rfl⟩, rfl⟩

/-! ## From IPv6 to IPv4 -/

theorem wrap4_eq_ok {level : Level} {packet : IPv6.Packet} {content : Content} {src dst : IPv4} {length : Nat}
    {body whole : Assembly} :
    wrap4 level packet content src dst length body = .ok whole ↔ IPv4.Header.minimum + length ≤ 0xffff ∧
      whole = Assembly.ofList [⟨.ipv4, (header4 level packet content src dst length).encode⟩] ++ body := by
  unfold wrap4
  split
  · simp only [reduceCtorEq, false_iff, not_and]
    omega
  · rw [Except.ok.injEq, eq_comm, and_iff_right (by omega)]

/-- A packet without hops left is answered or dropped, and the leases stay as they are. -/
theorem toIPv4_expired {data : Bytes} {packet : IPv6.Packet} (hpacket : IPv6.Packet.decode .outer data = .ok packet)
    (hhops : packet.header.hopLimit ≤ 1) :
    toIPv4 p now data t = (match timeExceeded? packet with
      | some answer => .ok (.reply answer)
      | none => .error (.drop .expired), t) := by
  unfold toIPv4
  rw [bind_apply, liftFault_apply, hpacket]
  show (ite (packet.header.hopLimit ≤ 1) _ _ : ForwardM Outcome) t = _
  rw [if_pos hhops]
  cases timeExceeded? packet <;> rfl

/-- A packet that goes on in IPv4 was whole, had hops left, was admitted, and its sender holds a lease. -/
theorem toIPv4_eq_forward {data : Bytes} {d : Datagram} :
    toIPv4 p now data t = (.ok (.forward d), t') ↔ ∃ packet content src s body,
      IPv6.Packet.decode .outer data = .ok packet ∧ ¬ packet.header.hopLimit ≤ 1 ∧
      admit6 .outer packet = .ok content ∧ t.leaseFor now packet.header.src = (.ok src, s) ∧
      body4 p now packet content src (p.extract packet.header.dst) s = (.ok body, t') ∧
      wrap4 .outer packet content src (p.extract packet.header.dst) body.size body = .ok d.body ∧
      d.destination = .ipv4 (p.extract packet.header.dst) := by
  constructor
  · intro h
    obtain ⟨packet, _, hread, h'⟩ := bind_eq_ok.1 h
    obtain ⟨hpacket, rfl⟩ := liftFault_eq_ok.1 hread
    by_cases hhops : packet.header.hopLimit ≤ 1
    · have hanswer := (toIPv4_expired hpacket hhops).symm.trans h
      rcases hx : timeExceeded? packet with _ | answer <;> rw [hx] at hanswer <;> cases hanswer
    rw [if_neg hhops] at h'
    simp only [bind_eq_ok, lift_eq_ok, liftFault_eq_ok, pure_eq_ok, resolve4_outer_eq_ok] at h'
    obtain ⟨content, _, ⟨hcontent, rfl⟩, ⟨src, _⟩, s, ⟨hsrc, rfl⟩, body, _, hbody, whole, _, ⟨hwhole, rfl⟩, hd, rfl⟩ :=
      h'
    cases hd
    exact ⟨packet, content, src, s, body, hpacket, hhops, hcontent, hsrc, hbody, hwhole, rfl⟩
  · obtain ⟨whole, _⟩ := d
    rintro ⟨packet, content, src, s, body, hpacket, hhops, hcontent, hsrc, hbody, hwhole, rfl⟩
    refine bind_eq_ok.2 ⟨packet, t, liftFault_eq_ok.2 ⟨hpacket, rfl⟩, ?_⟩
    rw [if_neg hhops]
    simp only [bind_eq_ok, lift_eq_ok, liftFault_eq_ok, pure_eq_ok, resolve4_outer_eq_ok]
    exact ⟨content, t, ⟨hcontent, rfl⟩, (src, _), s, ⟨hsrc, rfl⟩, body, t', hbody, whole, t', ⟨hwhole, rfl⟩, rfl, rfl⟩

/-- Only a packet without hops left is answered. -/
theorem toIPv4_eq_reply {data : Bytes} {d : Datagram} :
    toIPv4 p now data t = (.ok (.reply d), t') ↔ ∃ packet, IPv6.Packet.decode .outer data = .ok packet ∧
      packet.header.hopLimit ≤ 1 ∧ timeExceeded? packet = some d ∧ t = t' := by
  constructor
  · intro h
    obtain ⟨packet, _, hread, h'⟩ := bind_eq_ok.1 h
    obtain ⟨hpacket, rfl⟩ := liftFault_eq_ok.1 hread
    by_cases hhops : packet.header.hopLimit ≤ 1
    · have hanswer := (toIPv4_expired hpacket hhops).symm.trans h
      rcases hx : timeExceeded? packet with _ | answer <;> rw [hx] at hanswer <;> cases hanswer
      exact ⟨packet, hpacket, hhops, hx, rfl⟩
    · rw [if_neg hhops] at h'
      simp only [bind_eq_ok, pure_eq_ok] at h'
      obtain ⟨_, _, -, _, _, -, _, _, -, _, _, -, hd, -⟩ := h'
      cases hd
  · rintro ⟨packet, hpacket, hhops, hx, rfl⟩
    rw [toIPv4_expired hpacket hhops, hx]

/-- A quoted datagram goes on in IPv4 if it was admitted and its receiver holds a lease. -/
theorem quoteIPv4_eq_ok {data : Bytes} {whole : Assembly} :
    quoteIPv4 p now data t = (.ok whole, t') ↔ ∃ packet content dst,
      IPv6.Packet.decode .quoted data = .ok packet ∧ admit6 .quoted packet = .ok content ∧
      t.leaseFor now packet.header.dst = (.ok dst, t') ∧
      wrap4 .quoted packet content (p.extract packet.header.src) dst packet.payloadLength
        (quotedBody4 packet content (p.extract packet.header.src) dst) = .ok whole := by
  simp only [quoteIPv4, bind_eq_ok, lift_eq_ok, liftFault_eq_ok, resolve4_quoted_eq_ok]
  constructor
  · rintro ⟨packet, _, ⟨hpacket, rfl⟩, content, _, ⟨hcontent, rfl⟩, ⟨_, dst⟩, _, ⟨rfl, hdst⟩, hwhole, rfl⟩
    exact ⟨packet, content, dst, hpacket, hcontent, hdst, hwhole⟩
  · rintro ⟨packet, content, dst, hpacket, hcontent, hdst, hwhole⟩
    exact ⟨packet, t, ⟨hpacket, rfl⟩, content, t, ⟨hcontent, rfl⟩, (_, dst), t', ⟨rfl, hdst⟩, hwhole, rfl⟩

theorem messageBody4_eq_ok {c : Icmp.Counterpart} {rest : Bytes} {body : Assembly} :
    messageBody4 p now c rest t = (.ok body, t') ↔
      (c.nature = .informational ∧ body = (messageFront c).push ⟨.payload, rest⟩ ∧ t = t') ∨
      (c.nature = .error ∧ ∃ quoted, quoteIPv4 p now rest t = (.ok quoted, t') ∧ body = messageFront c ++ quoted) := by
  unfold messageBody4
  rcases c.nature with _ | _
  · simp only [pure_eq_ok, reduceCtorEq, false_and, or_false, true_and]
    rw [eq_comm (a := body)]
  · simp only [bind_eq_ok, pure_eq_ok, reduceCtorEq, false_and, false_or, true_and]
    constructor
    · rintro ⟨quoted, _, hquoted, rfl, rfl⟩
      exact ⟨quoted, hquoted, rfl⟩
    · rintro ⟨quoted, hquoted, rfl⟩
      exact ⟨quoted, t', hquoted, rfl, rfl⟩

/-! ## From IPv4 to IPv6 -/

theorem wrap6_eq_ok {level : Level} {packet : IPv4.Packet} {content : Content} {src dst : IPv6} {length : Nat}
    {body whole : Assembly} :
    wrap6 level packet content src dst length body = .ok whole ↔ length ≤ 0xffff ∧
      whole = Assembly.ofList [⟨.ipv6, (header6 level packet content src dst length).encode⟩] ++ body := by
  unfold wrap6
  split
  · simp only [reduceCtorEq, false_iff, not_and]
    omega
  · rw [Except.ok.injEq, eq_comm, and_iff_right (by omega)]

/-- An IPv4 packet may pass if it is no fragment, has hops left, and its content is carried over. -/
theorem admit4_eq_ok {level : Level} {data : Bytes} {packet : IPv4.Packet} {content : Content} :
    admit4 level data = .ok (packet, content) ↔ IPv4.Packet.decode level data = .ok packet ∧
      packet.header.isFragment = false ∧ (level = .outer → ¬ packet.header.ttl ≤ 1) ∧
      Content.classify .ipv4 level packet.header.protocol packet.payload = .ok content := by
  simp only [admit4, Except.bind_eq_ok, liftRefusal_eq_ok, Except.guard_eq_ok, Except.pure_eq_ok, not_and,
    Bool.not_eq_true]
  constructor
  · rintro ⟨_, hpacket, hwhole, hhops, _, hcontent, hpair⟩
    cases hpair
    exact ⟨hpacket, hwhole, hhops, hcontent⟩
  · rintro ⟨hpacket, hwhole, hhops, hcontent⟩
    exact ⟨packet, hpacket, hwhole, hhops, content, hcontent, rfl⟩

/-- A packet that goes on in IPv6 was admitted, and its receiver holds the lease on the address it was sent to. -/
theorem toIPv6_eq_ok {data : Bytes} {outcome : Outcome} :
    toIPv6 p now data t = (.ok outcome, t') ↔ ∃ packet content dst s body d, outcome = .forward d ∧
      admit4 .outer data = .ok (packet, content) ∧ t.findHolder now packet.header.dst = (.ok dst, s) ∧
      body6 p now packet content (p.embed packet.header.src) dst s = (.ok body, t') ∧
      wrap6 .outer packet content (p.embed packet.header.src) dst body.size body = .ok d.body ∧
      d.destination = .ipv6 dst := by
  simp only [toIPv6, bind_eq_ok, lift_eq_ok, liftFault_eq_ok, pure_eq_ok, resolve6_outer_eq_ok]
  constructor
  · rintro ⟨⟨packet, content⟩, _, ⟨hadm, rfl⟩, ⟨_, dst⟩, s, ⟨rfl, hdst⟩, body, _, hbody, whole, _, ⟨hwhole, rfl⟩,
      rfl, rfl⟩
    exact ⟨packet, content, dst, s, body, _, rfl, hadm, hdst, hbody, hwhole, rfl⟩
  · rintro ⟨packet, content, dst, s, body, ⟨whole, _⟩, rfl, hadm, hdst, hbody, hwhole, rfl⟩
    exact ⟨(packet, content), t, ⟨hadm, rfl⟩, (_, dst), s, ⟨rfl, hdst⟩, body, t', hbody, whole, t', ⟨hwhole, rfl⟩,
      rfl, rfl⟩

/-- A quoted datagram goes on in IPv6 if it was admitted and its sender holds a lease. -/
theorem quoteIPv6_eq_ok {data : Bytes} {whole : Assembly} :
    quoteIPv6 p now data t = (.ok whole, t') ↔ ∃ packet content src,
      admit4 .quoted data = .ok (packet, content) ∧ t.findHolder now packet.header.src = (.ok src, t') ∧
      wrap6 .quoted packet content src (p.embed packet.header.dst) packet.payloadLength
        (quotedBody6 packet content src (p.embed packet.header.dst)) = .ok whole := by
  simp only [quoteIPv6, bind_eq_ok, lift_eq_ok, liftFault_eq_ok, resolve6_quoted_eq_ok]
  constructor
  · rintro ⟨⟨packet, content⟩, _, ⟨hadm, rfl⟩, ⟨src, _⟩, _, ⟨hsrc, rfl⟩, hwhole, rfl⟩
    exact ⟨packet, content, src, hadm, hsrc, hwhole⟩
  · rintro ⟨packet, content, src, hadm, hsrc, hwhole⟩
    exact ⟨(packet, content), t, ⟨hadm, rfl⟩, (src, _), t', ⟨hsrc, rfl⟩, hwhole, rfl⟩

theorem messageBody6_eq_ok {c : Icmp.Counterpart} {rest : Bytes} {body : Assembly} :
    messageBody6 p now c rest t = (.ok body, t') ↔
      (c.nature = .informational ∧ body = (messageFront c).push ⟨.payload, rest⟩ ∧ t = t') ∨
      (c.nature = .error ∧ ∃ quoted, quoteIPv6 p now rest t = (.ok quoted, t') ∧
        body = (messageFront c ++ quoted).shorten (errorLimit - IPv6.Header.size)) := by
  unfold messageBody6
  rcases c.nature with _ | _
  · simp only [pure_eq_ok, reduceCtorEq, false_and, or_false, true_and]
    rw [eq_comm (a := body)]
  · simp only [bind_eq_ok, pure_eq_ok, reduceCtorEq, false_and, false_or, true_and]
    constructor
    · rintro ⟨quoted, _, hquoted, rfl, rfl⟩
      exact ⟨quoted, hquoted, rfl⟩
    · rintro ⟨quoted, hquoted, rfl⟩
      exact ⟨quoted, t', hquoted, rfl, rfl⟩

end Forwarding

end Nat64
