import Nat64.Proofs.Forwarding.Transparent
import Nat64.Proofs.Return

/-!
# Two hosts behind one gateway

A host that writes to the address another host leases sends through the gateway twice: to IPv4 and, from there, back to
IPv6. The other host gets the message that was sent, under the address that the first host leases.

* `Cargo.Complete.carried_carried`: of the first passage nothing is left in the message.
* `IPv4.Header.inIPv6_header_inIPv4`: nor in the header, but for the hops.
* `Session.hairpin`: both passages in any state of a session.
-/

namespace Nat64

/-! ## What the first passage leaves -/

/-- Carried to IPv4 and back, a header keeps its traffic class. -/
theorem IPv4.Header.inIPv6_header_inIPv4 {h : IPv6.Header} {length : Nat} (hlength : h.payloadLength.toNat = length)
    (protocol ttl hopLimit : UInt8) (src dst : IPv4) (src' dst' : IPv6) :
    (h.inIPv4 protocol ttl length src dst).header.inIPv6 h.nextHeader hopLimit length src' dst'
      = { h with flowLabel := 0, hopLimit, src := src', dst := dst' } := by
  have hpayload : UInt16.ofNat length = h.payloadLength := by
    rw [← hlength, UInt16.ofNat_toNat]
  simp only [IPv4.Header.inIPv6, hpayload]
  rfl

section Hops

variable {n : UInt8}

theorem sub_one_sub_one (n : UInt8) : n - 1 - 1 = n - 2 := by
  apply UInt8.toNat_inj.1
  have hlt := n.toNat_lt
  simp only [UInt8.toNat_sub, UInt8.reduceToNat]
  omega

theorem two_le_sub_one (h : 3 ≤ n) : 2 ≤ n - 1 := by
  have hlt := n.toNat_lt
  rw [UInt8.le_iff_toNat_le] at h ⊢
  simp only [UInt8.toNat_sub, UInt8.reduceToNat] at h ⊢
  omega

end Hops

/-! ## Both passages -/

namespace Forwarding

variable {data message : Bytes} {h : IPv6.Header} {c : Cargo} {a : IPv4} {host : IPv6} {t t' : LeaseTable}

/-- The second passage: a packet that came from IPv6 is carried back there. -/
theorem toIPv6_of_carried {src : IPv4} {pseudo : Bytes} (p : Prefix) (now : Nat)
    (hdata : data = (h.inIPv4 (c.number .ipv4) (h.hopLimit - 1) message.length src a).encode
      ++ c.carried .ipv4 pseudo message)
    (hlength : h.payloadLength.toNat = message.length) (hfits : message.length ≤ 65515) (hhops : 3 ≤ h.hopLimit)
    (hnumber : h.nextHeader = c.number .ipv6) (hcomplete : c.Complete .ipv6 message)
    (hholder : t.findHolder now a = (.ok host, t')) :
    ∃ d, toIPv6 p now data t = (.ok (.forward d), t') ∧ d.destination = .ipv6 host ∧
      let header := { h with flowLabel := 0, hopLimit := h.hopLimit - 2, src := p.embed src, dst := host }
      d.body.bytes = header.encode ++ c.carried .ipv6 (c.pseudo6 header.src header.dst message.length) message := by
  let out := h.inIPv4 (c.number .ipv4) (h.hopLimit - 1) message.length src a
  let inside := c.carried .ipv4 pseudo message
  have hinside : inside.length = message.length := hcomplete.length_carried _ pseudo
  have hopens : IPv4.Opens data out.header inside := by
    rw [hdata]
    refine IPv4.HeaderFields.opens ?_
    rw [hinside]
    exact UInt16.toNat_ofNat'.trans (Nat.mod_eq_of_lt (by omega))
  obtain ⟨d, hd, hdest, hbytes⟩ := toIPv6_of_cargo (p := p) hopens rfl (two_le_sub_one hhops) rfl
    (hcomplete.carried pseudo) hholder
  have hheader : out.header.inIPv6 (c.number .ipv6) (h.hopLimit - 1 - 1) message.length (p.embed src) host
      = { h with flowLabel := 0, hopLimit := h.hopLimit - 2, src := p.embed src, dst := host } := by
    rw [sub_one_sub_one, ← hnumber]
    exact IPv4.Header.inIPv6_header_inIPv4 hlength _ _ _ _ _ _ _
  refine ⟨d, hd, hdest, ?_⟩
  rw [hbytes, hinside, hcomplete.carried_carried]
  exact congrArg (·.encode ++ _) hheader

end Forwarding

namespace Session

open Forwarding

variable {σ : Type} {packet message : Bytes} {h : IPv6.Header} {c : Cargo} {a : IPv4} {l : Lease} {d : Datagram}

/-- A lease that has not expired is in use. -/
theorem Sound.holds_of_leaseOn {s : Session σ} (hsound : s.Sound) (hlease : s.leases.leaseOn? a = some l)
    (hexpired : s.leases.isExpired s.now l = false) :
    s.Holds l.host a l.lastUsed s.leases.expiry ∧ s.now ≤ l.lastUsed + s.leases.expiry := by
  obtain ⟨hmem, haddress⟩ := hsound.leaseOn?_eq_some.1 hlease
  refine ⟨⟨hsound, rfl, l, hmem, rfl, haddress, Nat.le_refl _⟩, ?_⟩
  simp only [LeaseTable.isExpired, decide_eq_false_iff_not] at hexpired
  omega

/-- A packet from one host to the address that another one leases is carried to that address, and from there at any
later time to the host that leases it, under the address that the first host leases: in its declared bytes nothing has
changed but the addresses, the flow label, the hops, the code of an echo message and the checksum. -/
theorem hairpin (p : Prefix) (expiry : Nat) (device : σ) (ops : List (Operation σ)) :
    let s := (start p expiry device).run ops
    let embedding := s.gateway.embedding
    let sent := s.step (.translateAs .ipv6 packet)
    IPv6.Opens packet h message → h.nextHeader = c.number .ipv6 → c.Complete .ipv6 message → message.length ≤ 65515 →
    3 ≤ h.hopLimit → h.dst = embedding.embed a → s.leases.leaseOn? a = some l →
    s.leases.isExpired s.now l = false → (s.gateway.translateAs s.now .ipv6 packet).1 = .ok (.forward d) →
    packet.take (40 + message.length) = h.encode ++ message ∧
    ∃ out, IPv4.Header.decode d.body.bytes = .ok out ∧ d.destination = .ipv4 a ∧ ∀ later, ∃ d',
      (sent.gateway.translateAs later .ipv4 d.body.bytes).1 = .ok (.forward d') ∧ d'.destination = .ipv6 l.host ∧
      let header := { h with
        flowLabel := 0, hopLimit := h.hopLimit - 2, src := embedding.embed out.src, dst := l.host }
      d'.body.bytes = header.encode ++ c.carried .ipv6 (c.pseudo6 header.src header.dst message.length) message := by
  intro s embedding sent hopens hnumber hcomplete hfits hhops hdst hlease hexpired hforward
  have hsound : s.Sound := sound_run (sound_start p expiry device) ops
  obtain ⟨hholds, hintime⟩ := hsound.holds_of_leaseOn hlease hexpired
  have hdeclared : packet.take (40 + message.length) = h.encode ++ message := by
    rw [List.take_add, ← IPv6.Header.encode_of_decode hopens.header_eq]
    exact congrArg (h.encode ++ ·) hopens.message_eq
  -- to IPv4
  have hgone := (settle_fst_eq_ok fun _ => Outcome.noConfusion).1 hforward
  obtain ⟨read, _, src, t, _, hread, -, -, hsrc, -⟩ := toIPv4_eq_forward.1 hgone
  have hheader := (IPv6.Packet.decode_eq_ok.1 hread).1
  rw [hopens.header_eq, Except.ok.injEq] at hheader
  rw [← hheader] at hsrc
  have htwo : 2 ≤ h.hopLimit := by
    rw [UInt8.le_iff_toNat_le] at hhops ⊢
    exact Nat.le_trans (by decide) hhops
  obtain ⟨d₀, hd₀, hdest, hbytes⟩ := toIPv4_of_cargo (p := embedding) hopens htwo hnumber hcomplete hsrc (by omega)
  have hsame := (Prod.mk.inj (hd₀.symm.trans hgone)).1
  rw [Except.ok.injEq, Outcome.forward.injEq] at hsame
  subst hsame
  rw [hdst, Prefix.extract_embed] at hdest hbytes
  refine ⟨hdeclared, (h.inIPv4 (c.number .ipv4) (h.hopLimit - 1) message.length src a).header, ?_, hdest,
    fun later => ?_⟩
  · rw [hbytes]
    exact IPv4.HeaderFields.decode_encode _ _
  -- and back
  have hholder : sent.leases.findHolder later a = (.ok l.host, sent.leases.renew later a) := by
    have hin : sent.leases.InUse _ _ _ _ l.host a _ := hholds.step hintime (.translateAs .ipv6 packet)
    rw [LeaseTable.findHolder, hin.holderOf?_eq]
  obtain ⟨d', hd', hdest', hbytes'⟩ :=
    toIPv6_of_carried embedding later hbytes hopens.length_eq hfits hhops hnumber hcomplete hholder
  exact ⟨d', congrArg Prod.fst (Gateway.translateAs_of_toIPv6 (g := sent.gateway) hd'), hdest', hbytes'⟩

/-- A UDP packet of one byte with three hops left from `2001:db8::1` to `64:ff9b::192.0.2.1`. -/
def sampleNeighbour : Bytes :=
  [0x6b, 0x8a, 0xbc, 0xde, 0, 9, 17, 3,
    0x20, 0x01, 0x0d, 0xb8, 0, 0, 0, 0, 0, 0, 0, 0, 0, 0, 0, 1,
    0, 0x64, 0xff, 0x9b, 0, 0, 0, 0, 0, 0, 0, 0, 192, 0, 2, 1,
    0x30, 0x39, 0, 53, 0, 9, 0, 0, 0x61]

/-- What it is between the two passages, sent from the address that `2001:db8::1` leases. -/
def sampleBetween : Bytes :=
  [0x45, 0xb8, 0, 29, 0, 0, 0x40, 0, 2, 17, 0xf4, 0x14, 192, 0, 2, 2, 192, 0, 2, 1, 0x30, 0x39, 0, 53, 0, 9, 0xea, 0x69,
    0x61]

/-- The operations before it: `2001:db8::2` leases the lower of two addresses, and the expiry is about to pass. -/
def sampleOperations : List (Operation Unit) :=
  [.addRange (IPv4.ofNat 0xc0000201) (IPv4.ofNat 0xc0000202),
    .leaseFor (IPv6.ofNat 0x20010db8000000000000000000000002), .wait 10]

set_option maxRecDepth 4000 in
/-- It arrives at `2001:db8::2` with one hop left. -/
theorem hairpin_sample :
    let s := (start Prefix.wellKnown 10 ()).run sampleOperations
    ∃ d d', (s.gateway.translateAs s.now .ipv6 sampleNeighbour).1 = .ok (.forward d) ∧ d.body.bytes = sampleBetween ∧
      ((s.step (.translateAs .ipv6 sampleNeighbour)).gateway.translateAs 10 .ipv4 d.body.bytes).1 = .ok (.forward d') ∧
      d'.body.bytes = [0x6b, 0x80, 0, 0, 0, 9, 17, 1,
        0, 0x64, 0xff, 0x9b, 0, 0, 0, 0, 0, 0, 0, 0, 192, 0, 2, 2,
        0x20, 0x01, 0x0d, 0xb8, 0, 0, 0, 0, 0, 0, 0, 0, 0, 0, 0, 2,
        0x30, 0x39, 0, 53, 0, 9, 0x7e, 0xb0, 0x61] := by
  have hopens : IPv6.Opens sampleNeighbour (IPv6.Header.ofBytes sampleNeighbour) (sampleNeighbour.drop 40) :=
    ⟨rfl, rfl, rfl⟩
  obtain ⟨d, hd, hgone⟩ : ∃ d, (((start Prefix.wellKnown 10 ()).run sampleOperations).gateway.translateAs 10 .ipv6
      sampleNeighbour).1 = .ok (.forward d) ∧ d.body.bytes = sampleBetween := ⟨_, rfl, rfl⟩
  obtain ⟨-, out, hout, -, hback⟩ := hairpin (c := .transport .udp) (a := IPv4.ofNat 0xc0000201) Prefix.wellKnown 10 ()
    sampleOperations hopens rfl (by decide) (by decide) (by decide) rfl rfl rfl hd
  obtain ⟨d', hd', -, hbytes⟩ := hback 10
  refine ⟨d, d', hd, hgone, hd', ?_⟩
  rw [hgone] at hout
  cases hout
  rw [hbytes]
  rfl

end Session

end Nat64
