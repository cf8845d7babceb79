import Nat64.Proofs.Forwarding.Presented
import Nat64.Proofs.Forwarding.WellFormed

/-!
# What a packet does to the leases

A packet that goes on renews its lease, or is granted one. A packet that does not go on should leave the leases as they
are, and it does if it is turned away by itself. An error is looked into only after its own lease was looked up, so what
that lookup did stays when the quoted datagram is dropped. An ICMPv6 error also looks up the lease of the host that the
quoted datagram was for, and this lookup grants one as well.

* `Gateway.leases_of_unforwarded`: what a packet leaves that is dropped or answered.
* `Gateway.leases_added`: for whom a packet adds a lease.
-/

namespace Nat64

/-! ## Packets that do not go on -/

namespace Forwarding

variable {p : Prefix} {now : Nat} {t : LeaseTable} {family : Family} {packet : Bytes}

/-- What is settled as a drop was refused for that reason. -/
theorem settled_drop {step : ForwardM Outcome} {reason : DropReason} (h : (settle step t).1 = .ok (.drop reason)) :
    (step t).1 = .error (.drop reason) ∨ (step t).1 = .ok (.drop reason) := by
  unfold settle at h
  rcases hstep : step t with ⟨(r | f) | outcome, s⟩ <;> rw [hstep] at h <;> cases h
  · exact Or.inl rfl
  · exact Or.inr rfl

/-- A packet that is neither dropped nor answered may also not be settled as either. -/
theorem Proceeds.not_drop {r : Except Refusal Outcome} (h : Proceeds r) (reason : DropReason) :
    r ≠ .error (.drop reason) ∧ r ≠ .ok (.drop reason) := by
  rcases h with ⟨d, rfl⟩ | ⟨f, rfl⟩
  · exact ⟨(nomatch ·), (nomatch ·)⟩
  · exact ⟨(nomatch ·), (nomatch ·)⟩

theorem Proceeds.not_reply {r : Except Refusal Outcome} (h : Proceeds r) (d : Datagram) : r ≠ .ok (.reply d) := by
  rcases h with ⟨d', rfl⟩ | ⟨f, rfl⟩
  · exact (nomatch ·)
  · exact (nomatch ·)

/-- An answered packet leaves the leases as they are. -/
theorem leases_of_reply {d : Datagram} (h : (settle (carry p now family packet) t).1 = .ok (.reply d)) :
    (carry p now family packet t).2 = t := by
  have hreply := congrArg Prod.fst ((settle_fst_eq_ok fun _ => Outcome.noConfusion).1 h)
  have hcourse := course_carry p now t family packet
  rw [hreply] at hcourse
  generalize (carry p now family packet t).2 = s at hcourse
  cases hcourse with
  | turnedAway _ => rfl
  | receiver _ hproceeds => exact absurd rfl (hproceeds.not_reply d)
  | sender _ hproceeds => exact absurd rfl (hproceeds.not_reply d)
  | quotedSender _ _ hproceeds => exact absurd rfl (hproceeds.not_reply d)
  | quotedReceiver _ _ _ hproceeds => exact absurd rfl (hproceeds.not_reply d)

/-- A dropped packet leaves the leases as they are, unless it is dropped for the datagram that it quotes. -/
theorem leases_of_drop {reason : DropReason} (h : (settle (carry p now family packet) t).1 = .ok (.drop reason)) :
    (carry p now family packet t).2 = t ∨ ∃ quote, Presents now t family packet quote (carry p now family packet t).2 ∧
      RefusesQuote family quote (.drop reason) := by
  have hcourse := course_carry p now t family packet
  have hdrop := settled_drop h
  generalize (carry p now family packet t).1 = r at hcourse hdrop
  generalize (carry p now family packet t).2 = s at hcourse
  have hstops (hproceeds : Proceeds r) : False := by
    obtain ⟨herror, hok⟩ := hproceeds.not_drop reason
    rcases hdrop with hdrop | hdrop
    · exact herror hdrop
    · exact hok hdrop
  cases hcourse with
  | turnedAway _ => exact Or.inl rfl
  | refused hpresents hrefuses =>
    rcases hdrop with hdrop | hdrop
    · cases hdrop
      exact Or.inr ⟨_, hpresents, hrefuses⟩
    · cases hdrop
  | receiver _ hproceeds => exact (hstops hproceeds).elim
  | sender _ hproceeds => exact (hstops hproceeds).elim
  | quotedSender _ _ hproceeds => exact (hstops hproceeds).elim
  | quotedReceiver _ _ _ hproceeds => exact (hstops hproceeds).elim

end Forwarding

namespace Gateway

/-- An answered packet leaves the gateway as it is, and so does a dropped one, unless it is an error whose own lease was
looked up before the datagram that it quotes was dropped. Then the leases are left as that lookup left them. -/
theorem leases_of_unforwarded (g : Gateway) (now : Nat) (packet : Bytes) :
    (∀ d, (g.translate now packet).1 = .ok (.reply d) → (g.translate now packet).2 = g) ∧
    (∀ reason, (g.translate now packet).1 = .ok (.drop reason) → (g.translate now packet).2 = g ∨
      ∃ family quote s, Forwarding.Presents now g.leases family packet quote s ∧
        Forwarding.RefusesQuote family quote (.drop reason)) ∧
    (∀ family quote s reason, Forwarding.Presents now g.leases family packet quote s →
      Forwarding.RefusesQuote family quote (.drop reason) →
      g.translate now packet = (.ok (.drop reason), { g with leases := s })) := by
  refine ⟨fun d hreply => ?_, fun reason hdrop => ?_, fun family quote s reason hpresents hrefuses => ?_⟩
  · rcases hfamily : Frame.family? packet with _ | family
    · exact translate_of_unknown hfamily
    · rw [translate_of_family hfamily, translateAs_eq_settle] at hreply ⊢
      rw [Forwarding.leases_of_reply hreply]
  · rcases hfamily : Frame.family? packet with _ | family
    · exact Or.inl (translate_of_unknown hfamily)
    · rw [translate_of_family hfamily, translateAs_eq_settle] at hdrop ⊢
      rcases Forwarding.leases_of_drop hdrop with hsame | ⟨quote, hpresents, hrefuses⟩
      · rw [hsame]
        exact Or.inl rfl
      · exact Or.inr ⟨family, quote, _, hpresents, hrefuses⟩
  · have hcarry := Forwarding.carry_of_refused g.embedding hpresents hrefuses
    rw [translate_of_family (Forwarding.family?_of_presents hpresents), translateAs_eq_settle, Forwarding.settle,
      hcarry]

/-- An error from `2001:db8::1` that quotes a datagram of a protocol that is not carried over. -/
def sampleUncarried : Bytes :=
  [0x60, 0, 0, 0, 0, 48, 58, 64,
    0x20, 0x01, 0x0d, 0xb8, 0, 0, 0, 0, 0, 0, 0, 0, 0, 0, 0, 1,
    0, 0x64, 0xff, 0x9b, 0, 0, 0, 0, 0, 0, 0, 0, 203, 0, 113, 5,
    1, 4, 0, 0, 0, 0, 0, 0,
    0x60, 0, 0, 0, 0, 0, 44, 64,
    0, 0x64, 0xff, 0x9b, 0, 0, 0, 0, 0, 0, 0, 0, 203, 0, 113, 5,
    0x20, 0x01, 0x0d, 0xb8, 0, 0, 0, 0, 0, 0, 0, 0, 0, 0, 0, 1]

/-- A session that has just been given `192.0.2.1` and `192.0.2.2`. -/
def sampleSession : Session Unit :=
  (Session.start Prefix.wellKnown 1800000000000 ()).run [.addRange (IPv4.ofNat 0xc0000201) (IPv4.ofNat 0xc0000202)]

set_option maxRecDepth 4000 in
theorem leases_of_unforwarded_samples :
    (sampleLeased.translate 0 sampleExpired).2 = sampleLeased ∧
    ((sampleSession.gateway.translate 0 sampleUncarried).2 = sampleSession.gateway ∨ ∃ family quote s,
      Forwarding.Presents 0 sampleSession.leases family sampleUncarried quote s ∧
        Forwarding.RefusesQuote family quote (.drop (.unsupported 44))) ∧
    (sampleSession.gateway.translate 0 sampleUncarried).1 = .ok (.drop (.unsupported 44)) := by
  refine ⟨?_, ?_, ?_⟩
  · obtain ⟨d, hreply⟩ : ∃ d, (sampleLeased.translate 0 sampleExpired).1 = .ok (.reply d) := ⟨_, rfl⟩
    exact (leases_of_unforwarded sampleLeased 0 sampleExpired).1 d hreply
  · exact (leases_of_unforwarded sampleSession.gateway 0 sampleUncarried).2.1 (.unsupported 44) rfl
  · have hopens : IPv6.Opens sampleUncarried (IPv6.Header.ofBytes sampleUncarried) (sampleUncarried.drop 40) :=
      ⟨rfl, rfl, rfl⟩
    have hpresents : Forwarding.Presents 0 sampleSession.leases .ipv6 sampleUncarried (sampleUncarried.drop 48)
        (sampleSession.leases.leaseFor 0 (IPv6.Header.ofBytes sampleUncarried).src).2 :=
      .ipv6 hopens (by decide) rfl (by decide) rfl rfl rfl
    have hrefuses : Forwarding.RefusesQuote .ipv6 (sampleUncarried.drop 48) (.drop (.unsupported 44)) :=
      Or.inr ⟨_, rfl, rfl⟩
    rw [(leases_of_unforwarded sampleSession.gateway 0 sampleUncarried).2.2 _ _ _ _ hpresents hrefuses]

set_option maxRecDepth 4000 in
/-- The sender of an error that is dropped is left with a lease that it did not have. -/
theorem lease_of_dropped :
    (sampleSession.gateway.translate 0 sampleUncarried).1 = .ok (.drop (.unsupported 44)) ∧
    sampleSession.leases.addressOf? (IPv6.Header.ofBytes sampleUncarried).src = none ∧
    (sampleSession.gateway.translate 0 sampleUncarried).2.leases.addressOf? (IPv6.Header.ofBytes sampleUncarried).src
      = some (IPv4.ofNat 0xc0000201) := ⟨rfl, rfl, rfl⟩

end Gateway

/-! ## Leases that a packet adds -/

namespace Forwarding

variable {p : Prefix} {now : Nat} {t s : LeaseTable} {family : Family} {packet quote : Bytes} {host : IPv6} {a : IPv4}

/-- The lookup for an error itself adds a lease for nobody but its sender. -/
theorem addressOf?_of_presents (hpresents : Presents now t .ipv6 packet quote s) (h : s.addressOf? host = some a) :
    t.addressOf? host = some a ∨ ∃ read, IPv6.Packet.decode .outer packet = .ok read ∧ host = read.header.src := by
  obtain ⟨read, _, _, src, hread, -, -, -, hsrc, -⟩ := presents_ipv6_iff.1 hpresents
  have hleased : (t.leaseFor now read.header.src).2.addressOf? host = some a := by
    rw [hsrc]
    exact h
  rcases LeaseTable.addressOf?_of_leaseFor hleased with hheld | ⟨rfl, -⟩
  · exact Or.inl hheld
  · exact Or.inr ⟨read, hread, rfl⟩

/-- No packet from IPv4 adds a lease. -/
theorem addressOf?_toIPv6 (p : Prefix) (now : Nat) (t : LeaseTable) (packet : Bytes) (host : IPv6) :
    (toIPv6 p now packet t).2.addressOf? host = t.addressOf? host :=
  keeps_toIPv6 (P := fun s => s.addressOf? host = t.addressOf? host)
    (fun s b hs => (LeaseTable.addressOf?_findHolder s now b host).trans hs) packet t rfl

/-- A packet from IPv6 adds a lease for its sender, or for the receiver of the datagram that it quotes. -/
theorem added_toIPv4 (h : (toIPv4 p now packet t).2.addressOf? host = some a) (hnew : t.addressOf? host ≠ some a) :
    ∃ read, IPv6.Packet.decode .outer packet = .ok read ∧ (host = read.header.src ∨ ∃ quote s inner content,
      Presents now t .ipv6 packet quote s ∧ IPv6.Packet.decode .quoted quote = .ok inner ∧
      admit6 .quoted inner = .ok content ∧ host = inner.header.dst ∧ s.addressOf? host = none) := by
  have hcourse := course_toIPv4 p now t packet
  generalize (toIPv4 p now packet t).1 = r at hcourse
  generalize (toIPv4 p now packet t).2 = t' at hcourse h
  have hsender {read : IPv6.Packet} (hread : IPv6.Packet.decode .outer packet = .ok read)
      (hleased : (t.leaseFor now read.header.src).2.addressOf? host = some a) : host = read.header.src := by
    rcases LeaseTable.addressOf?_of_leaseFor hleased with hheld | ⟨hhost, -⟩
    · exact absurd hheld hnew
    · exact hhost
  cases hcourse with
  | turnedAway _ => exact absurd h hnew
  | sender hread _ => exact ⟨_, hread, Or.inl (hsender hread h)⟩
  | refused hpresents _ =>
    rcases addressOf?_of_presents hpresents h with hheld | ⟨read, hread, hhost⟩
    · exact absurd hheld hnew
    · exact ⟨read, hread, Or.inl hhost⟩
  | @quotedReceiver quote s inner content _ hpresents hinner hadm _ =>
    obtain ⟨read, _, _, _, hread, -⟩ := presents_ipv6_iff.1 hpresents
    rcases LeaseTable.addressOf?_of_leaseFor h with hheld | ⟨rfl, hnone⟩
    · rcases addressOf?_of_presents hpresents hheld with hheld | ⟨read, hread, hhost⟩
      · exact absurd hheld hnew
      · exact ⟨read, hread, Or.inl hhost⟩
    · exact ⟨read, hread, Or.inr ⟨quote, s, inner, content, hpresents, hinner, hadm, rfl, hnone⟩⟩

/-- The receiver of a quoted datagram that may pass is found a lease as any sender is, and nothing
happens to the leases after that. -/
theorem leases_of_quoted (p : Prefix) {inner : IPv6.Packet} {content : Content}
    (hpresents : Presents now t .ipv6 packet quote s) (hinner : IPv6.Packet.decode .quoted quote = .ok inner)
    (hadm : admit6 .quoted inner = .ok content) :
    (toIPv4 p now packet t).2 = (s.leaseFor now inner.header.dst).2 := by
  obtain ⟨finish, hcarry⟩ := carry_of_presents p hpresents
  obtain ⟨x, hx⟩ := quoteIPv4_of_admit6 p now s hinner hadm
  have hquoted : carryQuoted p now .ipv6 quote s = (x.mapError .fault, (s.leaseFor now inner.header.dst).2) := hx
  show (carry p now .ipv6 packet t).2 = _
  rw [hcarry]
  rcases x with f | quoted
  · rw [bind_of_error hquoted]
  · rw [bind_of_ok hquoted]
    exact (completes_bind completes_forward _).1

end Forwarding

namespace Gateway

/-- Only IPv6 packets add leases: for their sender, and if they are errors, for the host that the quoted datagram was
for, when that datagram may pass and the host held no lease. It is then found one as any sender is. -/
theorem leases_added (g : Gateway) (now : Nat) (packet : Bytes) :
    let t := g.leases
    let t' := (g.translate now packet).2.leases
    (∀ host a, t'.addressOf? host = some a → t.addressOf? host ≠ some a →
      ∃ read, IPv6.Packet.decode .outer packet = .ok read ∧ (host = read.header.src ∨ ∃ quote s inner content,
        Forwarding.Presents now t .ipv6 packet quote s ∧ IPv6.Packet.decode .quoted quote = .ok inner ∧
        Forwarding.admit6 .quoted inner = .ok content ∧ host = inner.header.dst ∧ s.addressOf? host = none)) ∧
    (∀ quote s inner content a s', Forwarding.Presents now t .ipv6 packet quote s →
      IPv6.Packet.decode .quoted quote = .ok inner → Forwarding.admit6 .quoted inner = .ok content →
      s.leaseFor now inner.header.dst = (.ok a, s') → t' = s' ∧ t'.addressOf? inner.header.dst = some a) := by
  intro t t'
  refine ⟨fun host a hafter hbefore => ?_, fun quote s inner content a s' hpresents hinner hadm hlease => ?_⟩
  · rcases hfamily : Frame.family? packet with _ | _ | _
    · have hsame : t' = t := congrArg leases (translate_of_unknown hfamily)
      rw [hsame] at hafter
      exact absurd hafter hbefore
    · have htable : t' = (Forwarding.toIPv6 g.embedding now packet t).2 := by
        show (g.translate now packet).2.leases = _
        rw [translate_of_family hfamily, translateAs_eq_settle]
        rfl
      rw [htable, Forwarding.addressOf?_toIPv6] at hafter
      exact absurd hafter hbefore
    · have htable : t' = (Forwarding.toIPv4 g.embedding now packet t).2 := by
        show (g.translate now packet).2.leases = _
        rw [translate_of_family hfamily, translateAs_eq_settle]
        rfl
      rw [htable] at hafter
      exact Forwarding.added_toIPv4 hafter hbefore
  · have htable : t' = s' := by
      show (g.translate now packet).2.leases = _
      rw [translate_of_family (Forwarding.family?_of_presents hpresents), translateAs_eq_settle]
      show (Forwarding.toIPv4 g.embedding now packet t).2 = s'
      rw [Forwarding.leases_of_quoted g.embedding hpresents hinner hadm, hlease]
    refine ⟨htable, ?_⟩
    rw [htable]
    exact LeaseTable.addressOf?_of_leaseFor_eq_ok hlease

/-- An error from `2001:db8::1` that quotes a UDP datagram for `2001:db8::99`. -/
def sampleStranger : Bytes :=
  [0x60, 0, 0, 0, 0, 48, 58, 64,
    0x20, 0x01, 0x0d, 0xb8, 0, 0, 0, 0, 0, 0, 0, 0, 0, 0, 0, 1,
    0, 0x64, 0xff, 0x9b, 0, 0, 0, 0, 0, 0, 0, 0, 203, 0, 113, 5,
    1, 4, 0, 0, 0, 0, 0, 0,
    0x60, 0, 0, 0, 0, 8, 17, 64,
    0, 0x64, 0xff, 0x9b, 0, 0, 0, 0, 0, 0, 0, 0, 203, 0, 113, 5,
    0x20, 0x01, 0x0d, 0xb8, 0, 0, 0, 0, 0, 0, 0, 0, 0, 0, 0, 0x99]

set_option maxRecDepth 4000 in
theorem leases_added_samples :
    let sender := (IPv6.Header.ofBytes sampleStranger).src
    let stranger := (IPv6.Header.ofBytes (sampleStranger.drop 48)).dst
    (∃ read, IPv6.Packet.decode .outer sampleUncarried = .ok read ∧ (sender = read.header.src ∨
      ∃ quote s inner content, Forwarding.Presents 0 sampleSession.leases .ipv6 sampleUncarried quote s ∧
        IPv6.Packet.decode .quoted quote = .ok inner ∧ Forwarding.admit6 .quoted inner = .ok content ∧
        sender = inner.header.dst ∧ s.addressOf? sender = none)) ∧
    (sampleSession.gateway.translate 0 sampleStranger).2.leases.addressOf? stranger = some (IPv4.ofNat 0xc0000202) := by
  intro sender stranger
  constructor
  · exact (leases_added sampleSession.gateway 0 sampleUncarried).1 sender (IPv4.ofNat 0xc0000201) rfl (by decide)
  · have hopens : IPv6.Opens sampleStranger (IPv6.Header.ofBytes sampleStranger) (sampleStranger.drop 40) :=
      ⟨rfl, rfl, rfl⟩
    have hpresents : Forwarding.Presents 0 sampleSession.leases .ipv6 sampleStranger (sampleStranger.drop 48)
        (sampleSession.leases.leaseFor 0 sender).2 :=
      .ipv6 hopens (by decide) rfl (by decide) rfl rfl rfl
    exact ((leases_added sampleSession.gateway 0 sampleStranger).2 _ _ _ _ _ _ hpresents rfl rfl rfl).2

set_option maxRecDepth 4000 in
/-- One packet adds two leases, and one of them is for a host that sent nothing. -/
theorem leases_of_stranger :
    let stranger := (IPv6.Header.ofBytes (sampleStranger.drop 48)).dst
    (∃ d, (sampleSession.gateway.translate 0 sampleStranger).1 = .ok (.forward d)) ∧
    sampleSession.leases.leases.length = 0 ∧
    (sampleSession.gateway.translate 0 sampleStranger).2.leases.leases.length = 2 ∧
    stranger ≠ (IPv6.Header.ofBytes sampleStranger).src ∧
    sampleSession.leases.addressOf? stranger = none ∧
    (sampleSession.gateway.translate 0 sampleStranger).2.leases.addressOf? stranger = some (IPv4.ofNat 0xc0000202) :=
  ⟨⟨_, rfl⟩, rfl, rfl, by decide, rfl, rfl⟩

end Gateway

end Nat64
