import Nat64.Proofs.Forwarding.Passage

/-!
# The leases that a packet looks up

A packet looks up at most two leases: its own, and that of the datagram it quotes. Both are looked up before anything
else can go wrong with the new packet, so a lease may be looked up by a packet that is refused in the end.

* `Asks6`, `Asks4`: the leases that a packet from IPv6, or from IPv4, looks up.
* `toIPv4_of_asks6`, `toIPv6_of_asks4`: what looking a lease up brings about still holds when the packet is done with.
-/

namespace Nat64.Forwarding

variable {α β : Type} {p : Prefix} {now : Nat} {t s : LeaseTable} {data : Bytes}

/-- A packet from IPv6 looks up the lease of its sender, and that of the receiver of the datagram it quotes. -/
inductive Asks6 (now : Nat) (t : LeaseTable) (data : Bytes) : IPv6 → Prop
  | sender {packet : IPv6.Packet} {content : Content} (hpacket : IPv6.Packet.decode .outer data = .ok packet)
      (hhops : ¬ packet.header.hopLimit ≤ 1) (hcontent : admit6 .outer packet = .ok content) :
      Asks6 now t data packet.header.src
  | quoted {packet quoted : IPv6.Packet} {h : Icmp.Header} {c : Icmp.Counterpart} {src : IPv4} {content : Content}
      (hpacket : IPv6.Packet.decode .outer data = .ok packet) (hhops : ¬ packet.header.hopLimit ≤ 1)
      (hcontent : admit6 .outer packet = .ok (.message h c)) (hnature : c.nature = .error)
      (hsrc : (t.leaseFor now packet.header.src).1 = .ok src)
      (hquoted : IPv6.Packet.decode .quoted (packet.payload.drop Icmp.Header.size) = .ok quoted)
      (hadm : admit6 .quoted quoted = .ok content) :
      Asks6 now t data quoted.header.dst

/-- A packet from IPv4 looks up the lease on its receiver, and that on the sender of the datagram it quotes. -/
inductive Asks4 (now : Nat) (t : LeaseTable) (data : Bytes) : IPv4 → Prop
  | receiver {packet : IPv4.Packet} {content : Content} (hadm : admit4 .outer data = .ok (packet, content)) :
      Asks4 now t data packet.header.dst
  | quoted {packet quoted : IPv4.Packet} {h : Icmp.Header} {c : Icmp.Counterpart} {dst : IPv6} {content : Content}
      (hadm : admit4 .outer data = .ok (packet, .message h c)) (hnature : c.nature = .error)
      (hdst : (t.findHolder now packet.header.dst).1 = .ok dst)
      (hquoted : admit4 .quoted (packet.payload.drop Icmp.Header.size) = .ok (quoted, content)) :
      Asks4 now t data quoted.header.src

/-! ## Steps that are taken -/

theorem bind_of_ok {x : ForwardM α} {f : α → ForwardM β} {a : α} (h : x t = (.ok a, s)) : (x >>= f) t = f a s := by
  rw [bind_apply, h]

/-- What the first step brought about is still so after steps that keep it. -/
theorem keeps_after {P : LeaseTable → Prop} {x : ForwardM α} {f : α → ForwardM β} (hx : P (x t).2)
    (hf : ∀ a, Keeps P (f a)) : P ((x >>= f) t).2 := by
  rw [bind_apply]
  rcases hr : x t with ⟨_ | a, s⟩ <;> rw [hr] at hx
  · exact hx
  · exact hf a s hx

theorem toIPv4_of_admitted {packet : IPv6.Packet} {content : Content}
    (hpacket : IPv6.Packet.decode .outer data = .ok packet) (hhops : ¬ packet.header.hopLimit ≤ 1)
    (hcontent : admit6 .outer packet = .ok content) :
    toIPv4 p now data t = (do
      let (src, dst) ← resolve4 p now .outer packet.header
      let body ← body4 p now packet content src dst
      let body ← (wrap4 .outer packet content src dst body.size body : Except Fault Assembly)
      return Outcome.forward { body, destination := .ipv4 dst } : ForwardM Outcome) t := by
  unfold toIPv4
  rw [bind_of_ok (liftFault_eq_ok.2 ⟨hpacket, rfl⟩), if_neg hhops, bind_of_ok (lift_eq_ok.2 ⟨hcontent, rfl⟩)]

theorem toIPv6_of_admitted {packet : IPv4.Packet} {content : Content}
    (hadm : admit4 .outer data = .ok (packet, content)) :
    toIPv6 p now data t = (do
      let (src, dst) ← resolve6 p now .outer packet.header
      let body ← body6 p now packet content src dst
      let body ← (wrap6 .outer packet content src dst body.size body : Except Fault Assembly)
      return Outcome.forward { body, destination := .ipv6 dst } : ForwardM Outcome) t := by
  unfold toIPv6
  rw [bind_of_ok (lift_eq_ok.2 ⟨hadm, rfl⟩)]

theorem quoteIPv4_of_admitted {P : LeaseTable → Prop} {quoted : IPv6.Packet} {content : Content}
    (hquoted : IPv6.Packet.decode .quoted data = .ok quoted) (hadm : admit6 .quoted quoted = .ok content)
    (h : P (t.leaseFor now quoted.header.dst).2) : P (quoteIPv4 p now data t).2 := by
  unfold quoteIPv4
  rw [bind_of_ok (liftFault_eq_ok.2 ⟨hquoted, rfl⟩), bind_of_ok (lift_eq_ok.2 ⟨hadm, rfl⟩)]
  refine keeps_after ?_ fun _ => keeps_liftFault _
  exact keeps_after (x := leaseFor now quoted.header.dst) h fun _ => keeps_pure _

theorem quoteIPv6_of_admitted {P : LeaseTable → Prop} {quoted : IPv4.Packet} {content : Content}
    (hquoted : admit4 .quoted data = .ok (quoted, content)) (h : P (t.findHolder now quoted.header.src).2) :
    P (quoteIPv6 p now data t).2 := by
  unfold quoteIPv6
  rw [bind_of_ok (lift_eq_ok.2 ⟨hquoted, rfl⟩)]
  refine keeps_after ?_ fun _ => keeps_liftFault _
  exact keeps_after (x := findHolder now quoted.header.src) h fun _ => keeps_pure _

section ToIPv4

variable {P : LeaseTable → Prop} (hlease : ∀ t host, P t → P (t.leaseFor now host).2)
include hlease

theorem toIPv4_of_asks6 {host : IPv6} (hasks : Asks6 now t data host)
    (h : ∀ s, s = t ∨ (∃ src, s = (t.leaseFor now src).2) → P (s.leaseFor now host).2) : P (toIPv4 p now data t).2 := by
  cases hasks with
  | sender hpacket hhops hcontent =>
    rw [toIPv4_of_admitted hpacket hhops hcontent]
    refine keeps_after ?_ fun _ => keeps_bind (keeps_body4 hlease _ _ _ _) fun _ =>
      keeps_bind (keeps_liftFault _) fun _ => keeps_pure _
    exact keeps_after (x := leaseFor now _) (h t (Or.inl rfl)) fun _ => keeps_pure _
  | @quoted packet quoted _ c src _ hpacket hhops hcontent hnature hsrc hquoted hadm =>
    rw [toIPv4_of_admitted hpacket hhops hcontent]
    have hresolve : resolve4 p now .outer packet.header t
        = (.ok (src, p.extract packet.header.dst), (t.leaseFor now packet.header.src).2) :=
      resolve4_outer_eq_ok.2 ⟨Prod.ext hsrc rfl, rfl⟩
    rw [bind_of_ok hresolve]
    refine keeps_after ?_ fun _ => keeps_bind (keeps_liftFault _) fun _ => keeps_pure _
    refine keeps_after ?_ fun _ => keeps_liftFault _
    rw [messageBody4, hnature]
    refine keeps_after ?_ fun _ => keeps_pure _
    exact quoteIPv4_of_admitted hquoted hadm (h _ (Or.inr ⟨_, rfl⟩))

end ToIPv4

section ToIPv6

variable {P : LeaseTable → Prop} (hfind : ∀ t a, P t → P (t.findHolder now a).2)
include hfind

theorem toIPv6_of_asks4 {a : IPv4} (hasks : Asks4 now t data a)
    (h : ∀ s, s = t ∨ (∃ dst, s = (t.findHolder now dst).2) → P (s.findHolder now a).2) :
    P (toIPv6 p now data t).2 := by
  cases hasks with
  | receiver hadm =>
    rw [toIPv6_of_admitted hadm]
    refine keeps_after ?_ fun _ => keeps_bind (keeps_body6 hfind _ _ _ _) fun _ =>
      keeps_bind (keeps_liftFault _) fun _ => keeps_pure _
    exact keeps_after (x := findHolder now _) (h t (Or.inl rfl)) fun _ => keeps_pure _
  | @quoted packet quoted _ c dst _ hadm hnature hdst hquoted =>
    rw [toIPv6_of_admitted hadm]
    have hresolve : resolve6 p now .outer packet.header t
        = (.ok (p.embed packet.header.src, dst), (t.findHolder now packet.header.dst).2) :=
      resolve6_outer_eq_ok.2 ⟨rfl, Prod.ext hdst rfl⟩
    rw [bind_of_ok hresolve]
    refine keeps_after ?_ fun _ => keeps_bind (keeps_liftFault _) fun _ => keeps_pure _
    refine keeps_after ?_ fun _ => keeps_liftFault _
    rw [messageBody6, hnature]
    refine keeps_after ?_ fun _ => keeps_pure _
    exact quoteIPv6_of_admitted hquoted (h _ (Or.inr ⟨_, rfl⟩))

end ToIPv6

end Nat64.Forwarding
