import Nat64.Proofs.Forwarding.Messages
import Nat64.Proofs.Session

/-!
# What goes through

A whole packet that carries TCP, UDP or an echo message goes on in the other family whatever its message says: behind a
header of its own stand the bytes of the message, and nothing else of what was received.

* `toIPv4_of_cargo`, `toIPv6_of_cargo`: each direction, with the leases that are left.
* `Gateway.translate_cargo`: both.
-/

namespace Nat64

namespace Forwarding

variable {p : Prefix} {now : Nat} {t t' : LeaseTable} {data message : Bytes} {c : Cargo}

theorem not_le_one {n : UInt8} (h : 2 ≤ n) : ¬ n ≤ 1 := by
  have htwo : (2 : UInt8).toNat = 2 := rfl
  have hone : (1 : UInt8).toNat = 1 := rfl
  rw [UInt8.le_iff_toNat_le] at h ⊢
  omega

/-- A whole IPv6 packet goes on in IPv4 under the address that its sender leases. -/
theorem toIPv4_of_cargo {h : IPv6.Header} {src : IPv4} (hopens : IPv6.Opens data h message) (hhops : 2 ≤ h.hopLimit)
    (hnumber : h.nextHeader = c.number .ipv6) (hcomplete : c.Complete .ipv6 message)
    (hlease : t.leaseFor now h.src = (.ok src, t')) (hsize : 20 + message.length ≤ 0xffff) :
    ∃ d, toIPv4 p now data t = (.ok (.forward d), t') ∧ d.destination = .ipv4 (p.extract h.dst) ∧
      d.body.bytes = (h.inIPv4 (c.number .ipv4) (h.hopLimit - 1) message.length src (p.extract h.dst)).encode
        ++ c.carried .ipv4 (c.pseudo4 src (p.extract h.dst) message.length) message := by
  obtain ⟨packet, hpacket, rfl, rfl, hlength⟩ := hopens.decode .outer
  let dst := p.extract packet.header.dst
  let content := c.content .ipv6 packet.payload
  obtain ⟨body, hbody, hbytes⟩ := body4_of_cargo p now t' hcomplete hlength.symm src dst
  have hbodysize : body.size = packet.payload.length := by
    rw [← Assembly.length_bytes, hbytes, hcomplete.length_carried]
  have hadmit : admit6 .outer packet = .ok content := by
    rw [admit6, hnumber]
    exact classify_cargo hcomplete.shows
  have hfits : IPv4.Header.minimum + body.size ≤ 0xffff := by
    rw [hbodysize]
    exact hsize
  refine ⟨⟨_, .ipv4 dst⟩, toIPv4_eq_forward.2 ⟨packet, content, src, t', body, hpacket, not_le_one hhops, hadmit,
    hlease, hbody, wrap4_eq_ok.2 ⟨hfits, rfl⟩, rfl⟩, rfl, ?_⟩
  rw [Assembly.bytes_front, hbytes, hbodysize, header4, Cargo.number_content]
  rfl

/-- A whole IPv4 packet goes on in IPv6 to the host that holds the lease on its destination. -/
theorem toIPv6_of_cargo {h : IPv4.Header} {dst : IPv6} (hopens : IPv4.Opens data h message)
    (hwhole : h.isFragment = false) (hhops : 2 ≤ h.ttl) (hnumber : h.protocol = c.number .ipv4)
    (hcomplete : c.Complete .ipv4 message) (hholder : t.findHolder now h.dst = (.ok dst, t')) :
    ∃ d, toIPv6 p now data t = (.ok (.forward d), t') ∧ d.destination = .ipv6 dst ∧
      d.body.bytes = (h.inIPv6 (c.number .ipv6) (h.ttl - 1) message.length (p.embed h.src) dst).encode
        ++ c.carried .ipv6 (c.pseudo6 (p.embed h.src) dst message.length) message := by
  have hpacket := hopens.decode .outer
  have hlength := hopens.length_eq
  have htotal := h.totalLength.toNat_lt
  let packet : IPv4.Packet := ⟨h, message.length, message⟩
  let src := p.embed h.src
  let content := c.content .ipv4 message
  have hcontent : c.Complete .ipv4 packet.payload := hcomplete
  have hlt : packet.payloadLength < 0x100000000 := show message.length < 0x100000000 by omega
  obtain ⟨body, hbody, hbytes⟩ := body6_of_cargo p now t' hcontent rfl hlt src dst
  have hbodysize : body.size = message.length := by
    rw [← Assembly.length_bytes, hbytes, hcomplete.length_carried]
  have hadmit : admit4 .outer data = .ok (packet, content) := by
    refine admit4_eq_ok.2 ⟨hpacket, hwhole, fun _ => not_le_one hhops, ?_⟩
    show Content.classify .ipv4 .outer h.protocol message = _
    rw [hnumber]
    exact classify_cargo hcomplete.shows
  have hfits : body.size ≤ 0xffff := by omega
  refine ⟨⟨_, .ipv6 dst⟩, toIPv6_eq_ok.2
    ⟨packet, content, dst, t', body, _, rfl, hadmit, hholder, hbody, wrap6_eq_ok.2 ⟨hfits, rfl⟩, rfl⟩, rfl, ?_⟩
  rw [Assembly.bytes_front, hbytes, hbodysize, header6, Cargo.number_content]
  rfl

end Forwarding

/-! ## The gateway -/

theorem IPv4.Header.family?_of_decode {data : Bytes} {h : Header} (hdata : decode data = .ok h) :
    Frame.family? data = some .ipv4 := by
  obtain ⟨hversion, hlow, hhigh, -⟩ := decode_eq_ok.1 hdata
  cases data with
  | nil => simp [Bytes.byteAt] at hversion
  | cons opening rest =>
    have hopening : opening.toNat / 16 = 4 := hversion
    simp [Frame.family?, Frame.version?, hopening]

theorem IPv6.Header.family?_of_decode {data : Bytes} {h : Header} (hdata : decode data = .ok h) :
    Frame.family? data = some .ipv6 := by
  obtain ⟨-, hversion, -⟩ := decode_eq_ok.1 hdata
  cases data with
  | nil => simp [Bytes.byteAt] at hversion
  | cons opening rest =>
    have hopening : opening.toNat / 16 = 6 := hversion
    simp [Frame.family?, Frame.version?, hopening]

namespace Gateway

variable {g : Gateway} {now : Nat} {packet : Bytes} {outcome : Outcome} {t : LeaseTable}

theorem translateAs_of_toIPv4 (h : Forwarding.toIPv4 g.embedding now packet g.leases = (.ok outcome, t)) :
    g.translateAs now .ipv6 packet = (.ok outcome, { g with leases := t }) := by
  simp only [translateAs, Forwarding.settle, h]

theorem translateAs_of_toIPv6 (h : Forwarding.toIPv6 g.embedding now packet g.leases = (.ok outcome, t)) :
    g.translateAs now .ipv4 packet = (.ok outcome, { g with leases := t }) := by
  simp only [translateAs, Forwarding.settle, h]

/-- A whole packet with TCP, UDP or an echo message, hops left and a lease goes on in the other family: behind a header
of its own stands its message, of which only the checksum is new, and the first two bytes of an echo message. -/
theorem translate_cargo (g : Gateway) (now : Nat) :
    (∀ (packet : Bytes) (h : IPv4.Header) (message : Bytes) (c : Cargo) (dst : IPv6) (t : LeaseTable),
      IPv4.Opens packet h message → h.isFragment = false → 2 ≤ h.ttl → h.protocol = c.number .ipv4 →
      c.Complete .ipv4 message → g.leases.findHolder now h.dst = (.ok dst, t) →
      let src := g.embedding.embed h.src
      ∃ d, g.translate now packet = (.ok (.forward d), { g with leases := t }) ∧ d.destination = .ipv6 dst ∧
        d.body.bytes = (h.inIPv6 (c.number .ipv6) (h.ttl - 1) message.length src dst).encode
          ++ c.carried .ipv6 (c.pseudo6 src dst message.length) message) ∧
    (∀ (packet : Bytes) (h : IPv6.Header) (message : Bytes) (c : Cargo) (src : IPv4) (t : LeaseTable),
      IPv6.Opens packet h message → 2 ≤ h.hopLimit → h.nextHeader = c.number .ipv6 → c.Complete .ipv6 message →
      g.leases.leaseFor now h.src = (.ok src, t) → 20 + message.length ≤ 0xffff →
      let dst := g.embedding.extract h.dst
      ∃ d, g.translate now packet = (.ok (.forward d), { g with leases := t }) ∧ d.destination = .ipv4 dst ∧
        d.body.bytes = (h.inIPv4 (c.number .ipv4) (h.hopLimit - 1) message.length src dst).encode
          ++ c.carried .ipv4 (c.pseudo4 src dst message.length) message) := by
  constructor
  · intro packet h message c dst t hopens hwhole hhops hnumber hcomplete hholder src
    obtain ⟨d, hd, hdest, hbytes⟩ := Forwarding.toIPv6_of_cargo hopens hwhole hhops hnumber hcomplete hholder
    refine ⟨d, ?_, hdest, hbytes⟩
    rw [translate_of_family (IPv4.Header.family?_of_decode hopens.header_eq)]
    exact translateAs_of_toIPv6 hd
  · intro packet h message c src t hopens hhops hnumber hcomplete hlease hsize dst
    obtain ⟨d, hd, hdest, hbytes⟩ := Forwarding.toIPv4_of_cargo hopens hhops hnumber hcomplete hlease hsize
    refine ⟨d, ?_, hdest, hbytes⟩
    rw [translate_of_family (IPv6.Header.family?_of_decode hopens.header_eq)]
    exact translateAs_of_toIPv4 hd

/-- A gateway where `2001:db8::1` holds `192.0.2.1`. -/
def sampleLeased : Gateway :=
  let address := IPv4.ofNat 0xc0000201
  let host := IPv6.ofNat 0x20010db8000000000000000000000001
  { leases := { addresses := [(host, address)], leases := [{ address, host, lastUsed := 0 }] } }

/-- A UDP packet of one byte from `203.0.113.5` to `192.0.2.1`, with options, and two bytes behind its end. -/
def sampleOptions : Bytes :=
  [0x46, 0x2e, 0, 33, 0, 7, 0, 0, 64, 17, 0, 0, 203, 0, 113, 5, 192, 0, 2, 1, 1, 1, 1, 0,
    0, 53, 0x30, 0x39, 0, 9, 0, 0, 0x61, 0xff, 0xff]

/-- An echo request with the code 7 from `2001:db8::1` to `64:ff9b::203.0.113.5`. -/
def sampleEcho : Bytes :=
  [0x62, 0xe1, 0x23, 0x45, 0, 9, 58, 64,
    0x20, 0x01, 0x0d, 0xb8, 0, 0, 0, 0, 0, 0, 0, 0, 0, 0, 0, 1,
    0, 0x64, 0xff, 0x9b, 0, 0, 0, 0, 0, 0, 0, 0, 203, 0, 113, 5,
    128, 7, 0, 0, 0x12, 0x34, 0, 1, 0x61]

set_option maxRecDepth 4000 in
theorem translate_cargo_samples :
    (∃ d, (sampleLeased.translate 5 sampleOptions).1 = .ok (.forward d) ∧ d.body.bytes =
      [0x62, 0xe0, 0, 0, 0, 9, 17, 63,
        0, 0x64, 0xff, 0x9b, 0, 0, 0, 0, 0, 0, 0, 0, 203, 0, 113, 5,
        0x20, 0x01, 0x0d, 0xb8, 0, 0, 0, 0, 0, 0, 0, 0, 0, 0, 0, 1,
        0, 53, 0x30, 0x39, 0, 9, 4, 0xae, 0x61]) ∧
    ∃ d, (sampleLeased.translate 5 sampleEcho).1 = .ok (.forward d) ∧ d.body.bytes =
      [0x45, 0x2e, 0, 29, 0, 0, 0x40, 0, 63, 1, 0x3d, 0xab, 192, 0, 2, 1, 203, 0, 113, 5,
        8, 0, 0x84, 0xca, 0x12, 0x34, 0, 1, 0x61] := by
  constructor
  · have hopens : IPv4.Opens sampleOptions (IPv4.Header.ofBytes 24 sampleOptions) ((sampleOptions.drop 24).take 9) :=
      ⟨rfl, rfl, rfl⟩
    obtain ⟨d, hd, -, hbytes⟩ := (translate_cargo sampleLeased 5).1 _ _ _ (.transport .udp) _ _ hopens (by decide)
      (by decide) rfl (by decide) rfl
    refine ⟨d, by rw [hd], ?_⟩
    rw [hbytes]
    rfl
  · have hopens : IPv6.Opens sampleEcho (IPv6.Header.ofBytes sampleEcho) (sampleEcho.drop 40) := ⟨rfl, rfl, rfl⟩
    obtain ⟨d, hd, -, hbytes⟩ := (translate_cargo sampleLeased 5).2 _ _ _ (.echo .request) _ _ hopens (by decide) rfl
      (by decide) rfl (by decide)
    refine ⟨d, by rw [hd], ?_⟩
    rw [hbytes]
    rfl

end Gateway

end Nat64
