import Nat64.Proofs.Forwarding.Named

/-!
# Whom errors reach

An error goes to whoever it is addressed to, and the datagram that it quotes appears under the address of whoever sent
it. Each is looked up by itself. They are the same host where the error is addressed to the sender of the datagram; that
it is, nobody checks.

* `ErrorInIPv6.addresses`, `ErrorInIPv4.addresses`: the addresses in an error that was carried over.
* `Session.recipients`: both, in every state of every session.
* `Session.recipients_differ`: an error for one host that shows another.
-/

namespace Nat64

/-! ## The addresses of an error -/

section Addresses

variable {p : Prefix} {now : Nat} {t t' : LeaseTable} {packet quote : Bytes} {d : Datagram}

/-- In IPv6, receiver and quoted sender are the holders of the addresses that the error and the datagram gave. -/
theorem ErrorInIPv6.addresses (h : ErrorInIPv6 p now t packet quote d t') :
    ∃ (outer inner : IPv4.Header) (out quoted : IPv6.Header),
      IPv4.Header.decode packet = .ok outer ∧ IPv4.Header.decode quote = .ok inner ∧
      IPv6.Header.decode d.body.bytes = .ok out ∧ IPv6.Header.decode (d.body.bytes.drop 48) = .ok quoted ∧
      d.destination = .ipv6 out.dst ∧
      t.holderOf? outer.dst = some out.dst ∧ t.holderOf? inner.src = some quoted.src := by
  cases h with
  | @intro outer inner _ _ _ _ _ _ _ hopens _ _ _ hdst hinner _ _ _ _ hsrc hdestination hbytes =>
    rw [hbytes, Icmp.Counterpart.drop_behind (IPv6.Header.length_encode _)]
    exact ⟨outer, inner, _, _, hopens.header_eq, hinner, IPv6.Header.decode_encode _ _, IPv6.Header.decode_encode _ _,
      hdestination, hdst, hsrc⟩

/-- In IPv4, they are the last 32 bits of the addresses that the error and the datagram gave. -/
theorem ErrorInIPv4.addresses (h : ErrorInIPv4 p now t packet quote d t') :
    ∃ (outer inner : IPv6.Header) (out quoted : IPv4.Header),
      IPv6.Header.decode packet = .ok outer ∧ IPv6.Header.decode quote = .ok inner ∧
      IPv4.Header.decode d.body.bytes = .ok out ∧ IPv4.Header.decode (d.body.bytes.drop 28) = .ok quoted ∧
      d.destination = .ipv4 out.dst ∧ out.dst = p.extract outer.dst ∧ quoted.src = p.extract inner.src := by
  cases h with
  | @intro outer inner _ _ _ _ _ _ _ _ hopens _ _ _ _ hinner _ _ _ _ hdestination hbytes =>
    rw [hbytes, Icmp.Counterpart.drop_behind (IPv4.HeaderFields.length_encode _)]
    exact ⟨outer, inner, _, _, hopens.header_eq, hinner, IPv4.HeaderFields.decode_encode _ _,
      IPv4.HeaderFields.decode_encode _ _, hdestination, rfl, rfl⟩

end Addresses

/-- Under one prefix, addresses are told by what they stand for. -/
theorem Prefix.extract_inj {p : Prefix} {a b : IPv6} (ha : a ∈ p) (hb : b ∈ p) : p.extract a = p.extract b ↔ a = b := by
  constructor
  · intro h
    rw [← (p.embed_extract_iff a).2 ha, ← (p.embed_extract_iff b).2 hb, h]
  · rintro rfl
    rfl

/-! ## Every session -/

namespace Session

variable {σ : Type} {s : Session σ}

/-- In every state of every session: an error from IPv4 goes to the holder of the address it was sent to, and shows the
holder of the address that the quoted datagram came from; one from IPv6 goes to, and shows, the last 32 bits of these
addresses. It is one host exactly where it was one address. And whatever a packet from IPv4 comes to, no lease has a
part in it, or is renewed by it, but those on the addresses that the packet names. -/
theorem recipients (p : Prefix) (expiry : Nat) (device : σ) (ops : List (Operation σ)) :
    let s := (start p expiry device).run ops
    (∀ packet quote d, Quotes .ipv4 packet quote → (s.gateway.translateAs s.now .ipv4 packet).1 = .ok (.forward d) →
      ∃ (outer inner : IPv4.Header) (out quoted : IPv6.Header),
        IPv4.Header.decode packet = .ok outer ∧ IPv4.Header.decode quote = .ok inner ∧
        IPv6.Header.decode d.body.bytes = .ok out ∧ IPv6.Header.decode (d.body.bytes.drop 48) = .ok quoted ∧
        d.destination = .ipv6 out.dst ∧
        s.leases.holderOf? outer.dst = some out.dst ∧ s.leases.holderOf? inner.src = some quoted.src ∧
        (quoted.src = out.dst ↔ inner.src = outer.dst)) ∧
    (∀ packet quote d, Quotes .ipv6 packet quote → (s.gateway.translateAs s.now .ipv6 packet).1 = .ok (.forward d) →
      ∃ (outer inner : IPv6.Header) (out quoted : IPv4.Header),
        IPv6.Header.decode packet = .ok outer ∧ IPv6.Header.decode quote = .ok inner ∧
        IPv4.Header.decode d.body.bytes = .ok out ∧ IPv4.Header.decode (d.body.bytes.drop 28) = .ok quoted ∧
        d.destination = .ipv4 out.dst ∧
        out.dst = s.gateway.embedding.extract outer.dst ∧ quoted.src = s.gateway.embedding.extract inner.src ∧
        (outer.dst ∈ s.gateway.embedding → inner.src ∈ s.gateway.embedding →
          (quoted.src = out.dst ↔ inner.src = outer.dst))) ∧
    ∀ packet,
      (∀ leases : LeaseTable, (∀ a, Forwarding.Names packet a → leases.holderOf? a = s.leases.holderOf? a) →
        ({ s.gateway with leases }.translateAs s.now .ipv4 packet).1 = (s.gateway.translateAs s.now .ipv4 packet).1) ∧
      ∀ a, ¬ Forwarding.Names packet a →
        (s.gateway.translateAs s.now .ipv4 packet).2.leases.leaseOn? a = s.leases.leaseOn? a := by
  intro s
  have hsound : s.Sound := sound_run (sound_start p expiry device) ops
  refine ⟨fun packet quote d hquotes hforward => ?_, fun packet quote d hquotes hforward => ?_, fun packet => ⟨?_, ?_⟩⟩
  · obtain ⟨outer, inner, out, quoted, houter, hinner, hout, hquoted, hdestination, hdst, hsrc⟩ :=
      ErrorInIPv6.addresses (Gateway.errorInIPv6_of_translateAs hquotes hforward)
    refine ⟨outer, inner, out, quoted, houter, hinner, hout, hquoted, hdestination, hdst, hsrc, fun h => ?_,
      fun h => ?_⟩
    · exact hsound.eq_of_holderOf? hsrc (h ▸ hdst)
    · exact Option.some.inj (hsrc.symm.trans ((congrArg s.leases.holderOf? h).trans hdst))
  · obtain ⟨outer, inner, out, quoted, houter, hinner, hout, hquoted, hdestination, hdst, hsrc⟩ :=
      ErrorInIPv4.addresses (Gateway.errorInIPv4_of_translateAs hquotes hforward)
    refine ⟨outer, inner, out, quoted, houter, hinner, hout, hquoted, hdestination, hdst, hsrc, fun hmem hmem' => ?_⟩
    rw [hdst, hsrc]
    exact Prefix.extract_inj hmem' hmem
  · intro leases hleases
    have hsame := (Forwarding.looksAt_toIPv6 s.gateway.embedding s.now packet).same s.leases leases hleases
    exact Forwarding.settle_fst_congr hsame
  · intro a ha
    show (Forwarding.settle _ s.leases).2.leaseOn? a = _
    rw [Forwarding.settle_snd]
    exact (Forwarding.looksAt_toIPv6 s.gateway.embedding s.now packet).others s.leases a ha

/-- The hosts `2001:db8::1` and `2001:db8::2` lease `192.0.2.1` and `192.0.2.2`, and five seconds pass. -/
def sampleNeighbours : List (Operation Unit) :=
  [.addRange (IPv4.ofNat 0xc0000201) (IPv4.ofNat 0xc0000202),
    .leaseFor (IPv6.ofNat 0x20010db8000000000000000000000001),
    .leaseFor (IPv6.ofNat 0x20010db8000000000000000000000002),
    .wait 5000000000]

/-- The front of a UDP datagram from an address in `64:ff9b::203.0.113.0/120` to `2001:db8::1`. -/
def sampleSent6 (sender : UInt8) : Bytes :=
  [0x60, 0, 0, 0, 0, 8, 17, 64,
    0, 0x64, 0xff, 0x9b, 0, 0, 0, 0, 0, 0, 0, 0, 203, 0, 113, sender,
    0x20, 0x01, 0x0d, 0xb8, 0, 0, 0, 0, 0, 0, 0, 0, 0, 0, 0, 1,
    0x30, 0x39, 0, 53, 0, 8, 0x12, 0x34]

/-- An error from `2001:db8::1` to `64:ff9b::203.0.113.5` that quotes it. -/
def sampleNews6 (sender : UInt8) : Bytes :=
  [0x60, 0, 0, 0, 0, 56, 58, 64,
    0x20, 0x01, 0x0d, 0xb8, 0, 0, 0, 0, 0, 0, 0, 0, 0, 0, 0, 1,
    0, 0x64, 0xff, 0x9b, 0, 0, 0, 0, 0, 0, 0, 0, 203, 0, 113, 5,
    1, 4, 0, 0, 0, 0, 0, 0] ++ sampleSent6 sender

set_option maxRecDepth 4000 in
theorem recipients_samples :
    let s := (start Prefix.wellKnown 1800000000000 ()).run sampleNeighbours
    (∃ (d : Datagram) (out quoted : IPv6.Header),
      (s.gateway.translateAs s.now .ipv4 (sampleNews4 2)).1 = .ok (.forward d) ∧
      IPv6.Header.decode d.body.bytes = .ok out ∧ IPv6.Header.decode (d.body.bytes.drop 48) = .ok quoted ∧
      quoted.src = out.dst) ∧
    ∃ (d : Datagram) (out quoted : IPv4.Header),
      (s.gateway.translateAs s.now .ipv6 (sampleNews6 9)).1 = .ok (.forward d) ∧
      IPv4.Header.decode d.body.bytes = .ok out ∧ IPv4.Header.decode (d.body.bytes.drop 28) = .ok quoted ∧
      quoted.src ≠ out.dst := by
  intro s
  obtain ⟨h4, h6, -⟩ := recipients Prefix.wellKnown 1800000000000 () sampleNeighbours
  constructor
  · obtain ⟨d, hforward⟩ : ∃ d, (s.gateway.translateAs s.now .ipv4 (sampleNews4 2)).1 = .ok (.forward d) := ⟨_, rfl⟩
    have hquotes : Quotes .ipv4 (sampleNews4 2) sampleSent4 := ⟨_, rfl, rfl, rfl, rfl⟩
    obtain ⟨outer, inner, out, quoted, houter, hinner, hout, hquoted, -, -, -, hsame⟩ := h4 _ _ _ hquotes hforward
    cases houter
    cases hinner
    exact ⟨d, out, quoted, hforward, hout, hquoted, hsame.2 rfl⟩
  · obtain ⟨d, hforward⟩ : ∃ d, (s.gateway.translateAs s.now .ipv6 (sampleNews6 9)).1 = .ok (.forward d) := ⟨_, rfl⟩
    have hquotes : Quotes .ipv6 (sampleNews6 9) (sampleSent6 9) := ⟨_, rfl, rfl, rfl, rfl⟩
    obtain ⟨outer, inner, out, quoted, houter, hinner, hout, hquoted, -, -, -, hsame⟩ := h6 _ _ _ hquotes hforward
    obtain ⟨-, -, rfl⟩ := IPv6.Header.decode_eq_ok.1 houter
    obtain ⟨-, -, rfl⟩ := IPv6.Header.decode_eq_ok.1 hinner
    exact ⟨d, out, quoted, hforward, hout, hquoted, fun h => absurd ((hsame rfl rfl).1 h) (by decide)⟩

set_option maxRecDepth 4000 in
/-- An error for `2001:db8::1` shows it the neighbour, whose lease is renewed; one for `203.0.113.5` shows it a datagram
from `203.0.113.9`. -/
theorem recipients_differ :
    let s := (start Prefix.wellKnown 1800000000000 ()).run sampleNeighbours
    (∃ (d : Datagram) (out quoted : IPv6.Header),
      (s.gateway.translateAs s.now .ipv4 (sampleNews4 1)).1 = .ok (.forward d) ∧
      IPv6.Header.decode d.body.bytes = .ok out ∧ IPv6.Header.decode (d.body.bytes.drop 48) = .ok quoted ∧
      out.dst = IPv6.ofNat 0x20010db8000000000000000000000001 ∧
      quoted.src = IPv6.ofNat 0x20010db8000000000000000000000002 ∧ out.dst ≠ quoted.src) ∧
    (s.leases.leaseOn? (IPv4.ofNat 0xc0000202)).map (·.lastUsed) = some 0 ∧
    ((s.gateway.translateAs s.now .ipv4 (sampleNews4 1)).2.leases.leaseOn? (IPv4.ofNat 0xc0000202)).map (·.lastUsed)
      = some 5000000000 ∧
    ∃ (d : Datagram) (out quoted : IPv4.Header),
      (s.gateway.translateAs s.now .ipv6 (sampleNews6 9)).1 = .ok (.forward d) ∧
      IPv4.Header.decode d.body.bytes = .ok out ∧ IPv4.Header.decode (d.body.bytes.drop 28) = .ok quoted ∧
      out.dst = IPv4.ofNat 0xcb007105 ∧ quoted.src = IPv4.ofNat 0xcb007109 ∧ out.dst ≠ quoted.src :=
  ⟨⟨_, _, _, rfl, rfl, rfl, rfl, rfl, by decide⟩, rfl, rfl, _, _, _, rfl, rfl, rfl, rfl, rfl, by decide⟩

end Session

end Nat64
