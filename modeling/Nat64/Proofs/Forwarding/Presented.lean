import Nat64.Proofs.Forwarding.Lookups
import Nat64.Proofs.Forwarding.Transparent

/-!
# Errors that are looked into

A received packet is first taken by itself: it is read, admitted, and its own lease is looked up. Only an error is
looked into after that. The datagram that it quotes then goes the same way, with the leases that the first lookup left.

* `Presents`: an error that came so far.
* `RefusesQuote`: a quoted datagram that is turned away as it stands.
* `Course`: how far a packet gets, and which leases it leaves; `course_carry`: every packet takes such a course.
-/

namespace Nat64

namespace Forwarding

variable {α β : Type} {p : Prefix} {now : Nat} {t s t' : LeaseTable} {family : Family} {packet quote : Bytes}
  {r : Refusal}

/-! ## Both directions at once -/

/-- Carries a received packet of a family over to the other. -/
def carry (p : Prefix) (now : Nat) : Family → Bytes → ForwardM Outcome
  | .ipv4, packet => toIPv6 p now packet
  | .ipv6, packet => toIPv4 p now packet

/-- Carries a quoted datagram of a family over to the other. -/
def carryQuoted (p : Prefix) (now : Nat) : Family → Bytes → ForwardM Assembly
  | .ipv4, quote => quoteIPv6 p now quote
  | .ipv6, quote => quoteIPv4 p now quote

/-- A received packet of a family is an error that passes by itself, and its own lease is found. The last two are the
bytes that it quotes and the leases that the lookup leaves. -/
inductive Presents (now : Nat) (t : LeaseTable) : Family → Bytes → Bytes → LeaseTable → Prop
  | ipv4 {packet message : Bytes} {h : IPv4.Header} {c : Icmp.Counterpart} {dst : IPv6} {s : LeaseTable}
      (hopens : IPv4.Opens packet h message) (hwhole : h.isFragment = false) (hhops : 2 ≤ h.ttl)
      (hnumber : h.protocol = (Protocol.icmp .ipv4).number) (hlength : 8 ≤ message.length)
      (hcounterpart : Icmp.toIPv6 (Icmp.Header.ofBytes message) = .ok (some c)) (hnature : c.nature = .error)
      (hdst : t.findHolder now h.dst = (.ok dst, s)) :
      Presents now t .ipv4 packet (message.drop 8) s
  | ipv6 {packet message : Bytes} {h : IPv6.Header} {c : Icmp.Counterpart} {src : IPv4} {s : LeaseTable}
      (hopens : IPv6.Opens packet h message) (hhops : 2 ≤ h.hopLimit)
      (hnumber : h.nextHeader = (Protocol.icmp .ipv6).number) (hlength : 8 ≤ message.length)
      (hcounterpart : Icmp.toIPv4 (Icmp.Header.ofBytes message) = .ok (some c)) (hnature : c.nature = .error)
      (hsrc : t.leaseFor now h.src = (.ok src, s)) :
      Presents now t .ipv6 packet (message.drop 8) s

/-- The datagram at the front of quoted bytes is turned away as it stands: it cannot be read, or may not pass. -/
def RefusesQuote : Family → Bytes → Refusal → Prop
  | .ipv4, quote, r => admit4 .quoted quote = .error r
  | .ipv6, quote, r =>
    (∃ f, IPv6.Packet.decode .quoted quote = .error f ∧ r = .fault f) ∨
      ∃ read, IPv6.Packet.decode .quoted quote = .ok read ∧ admit6 .quoted read = .error r

/-! ## Steps that are not taken -/

theorem bind_of_error {x : ForwardM α} {f : α → ForwardM β} (h : x t = (.error r, s)) :
    (x >>= f) t = (.error r, s) := by
  rw [bind_apply, h]

theorem lift_of_error {x : Except Refusal α} (h : x = .error r) : (liftM x : ForwardM α) t = (.error r, t) := by
  rw [h]
  rfl

theorem liftFault_of_error {x : Except Fault α} {f : Fault} (h : x = .error f) :
    (liftM x : ForwardM α) t = (.error (.fault f), t) := by
  rw [h]
  rfl

/-- The host whose lease an IPv6 header makes the translator look up. -/
def leaseholder6 (level : Level) (h : IPv6.Header) : IPv6 :=
  match level with
  | .outer => h.src
  | .quoted => h.dst

/-- The address on which an IPv4 header makes the translator look the lease up. -/
def leased4 (level : Level) (h : IPv4.Header) : IPv4 :=
  match level with
  | .outer => h.dst
  | .quoted => h.src

theorem resolve4_of_error (level : Level) {h : IPv6.Header} {f : Fault}
    (hlookup : t.leaseFor now (leaseholder6 level h) = (.error f, s)) :
    resolve4 p now level h t = (.error (.fault f), s) := by
  have hstep : leaseFor now (leaseholder6 level h) t = (.error (.fault f), s) := by
    rw [leaseFor, hlookup]
    rfl
  cases level with
  | outer => exact bind_of_error hstep
  | quoted => exact bind_of_error hstep

theorem resolve6_of_error (level : Level) {h : IPv4.Header} {f : Fault}
    (hlookup : t.findHolder now (leased4 level h) = (.error f, s)) :
    resolve6 p now level h t = (.error (.fault f), s) := by
  have hstep : findHolder now (leased4 level h) t = (.error (.fault f), s) := by
    rw [findHolder, hlookup]
    rfl
  cases level with
  | outer => exact bind_of_error hstep
  | quoted => exact bind_of_error hstep

/-! ## Errors that pass by themselves -/

/-- Only control messages of the family are taken for messages. -/
theorem number_of_classify {level : Level} {number : UInt8} {payload : Bytes} {h : Icmp.Header} {c : Icmp.Counterpart}
    (hcontent : Content.classify family level number payload = .ok (.message h c)) :
    number = (Protocol.icmp family).number := by
  rcases hprotocol : Protocol.ofNumber? number with _ | t | f
  · rw [Content.classify, hprotocol] at hcontent
    cases hcontent
  · rw [Content.classify, hprotocol] at hcontent
    cases hcontent
  · by_cases hf : f = family
    · subst hf
      exact (Protocol.number_of_ofNumber? hprotocol).symm
    · rw [Content.classify, hprotocol] at hcontent
      simp only [if_neg hf] at hcontent
      cases hcontent

/-- A message passes if it is a control message with a counterpart. -/
theorem classify_outer_eq_message {number : UInt8} {payload : Bytes} {h : Icmp.Header} {c : Icmp.Counterpart} :
    Content.classify family .outer number payload = .ok (.message h c) ↔
      number = (Protocol.icmp family).number ∧ 8 ≤ payload.length ∧ h = Icmp.Header.ofBytes payload ∧
        Icmp.counterpart family h = .ok (some c) := by
  constructor
  · intro hcontent
    obtain rfl := number_of_classify hcontent
    obtain ⟨hlength, -, c', hc, hmessage⟩ := classify_icmp_eq_ok.1 hcontent
    cases hmessage
    exact ⟨rfl, hlength, rfl, hc⟩
  · rintro ⟨rfl, hlength, rfl, hc⟩
    refine classify_icmp_eq_ok.2 ⟨hlength, ?_, c, hc, rfl⟩
    rintro ⟨hlevel, -⟩
    cases hlevel

theorem two_le_of_not_le_one {n : UInt8} (h : ¬ n ≤ 1) : 2 ≤ n := by
  have htwo : (2 : UInt8).toNat = 2 := rfl
  have hone : (1 : UInt8).toNat = 1 := rfl
  rw [UInt8.le_iff_toNat_le] at h ⊢
  omega

theorem presents_ipv4_iff : Presents now t .ipv4 packet quote s ↔ ∃ read h c dst,
    admit4 .outer packet = .ok (read, .message h c) ∧ c.nature = .error ∧
    t.findHolder now read.header.dst = (.ok dst, s) ∧ quote = read.payload.drop Icmp.Header.size := by
  constructor
  · intro hpresents
    cases hpresents with
    | @ipv4 _ message h c dst _ hopens hwhole hhops hnumber hlength hcounterpart hnature hdst =>
      refine ⟨⟨h, message.length, message⟩, Icmp.Header.ofBytes message, c, dst, ?_, hnature, hdst, rfl⟩
      refine admit4_eq_ok.2 ⟨hopens.decode .outer, hwhole, fun _ => not_le_one hhops, ?_⟩
      exact classify_outer_eq_message.2 ⟨hnumber, hlength, rfl, hcounterpart⟩
  · rintro ⟨read, h, c, dst, hadm, hnature, hdst, rfl⟩
    obtain ⟨hread, hwhole, hhops, hcontent⟩ := admit4_eq_ok.1 hadm
    obtain ⟨hnumber, hlength, rfl, hcounterpart⟩ := classify_outer_eq_message.1 hcontent
    exact .ipv4 (IPv4.Packet.opens hread) hwhole (two_le_of_not_le_one (hhops rfl)) hnumber hlength hcounterpart
      hnature hdst

theorem presents_ipv6_iff : Presents now t .ipv6 packet quote s ↔ ∃ read h c src,
    IPv6.Packet.decode .outer packet = .ok read ∧ ¬ read.header.hopLimit ≤ 1 ∧
    admit6 .outer read = .ok (.message h c) ∧ c.nature = .error ∧
    t.leaseFor now read.header.src = (.ok src, s) ∧ quote = read.payload.drop Icmp.Header.size := by
  constructor
  · intro hpresents
    cases hpresents with
    | @ipv6 _ message h c src _ hopens hhops hnumber hlength hcounterpart hnature hsrc =>
      obtain ⟨read, hread, rfl, rfl, -⟩ := hopens.decode .outer
      refine ⟨read, Icmp.Header.ofBytes read.payload, c, src, hread, not_le_one hhops, ?_, hnature, hsrc, rfl⟩
      exact classify_outer_eq_message.2 ⟨hnumber, hlength, rfl, hcounterpart⟩
  · rintro ⟨read, h, c, src, hread, hhops, hadm, hnature, hsrc, rfl⟩
    obtain ⟨hnumber, hlength, rfl, hcounterpart⟩ := classify_outer_eq_message.1 hadm
    exact .ipv6 (IPv6.Packet.opens hread) (two_le_of_not_le_one hhops) hnumber hlength hcounterpart hnature hsrc

/-- An error that is looked into is completed from what its quotation becomes, without another look at the leases. -/
theorem carry_of_presents (p : Prefix) (hpresents : Presents now t family packet quote s) :
    ∃ finish : Assembly → Except Fault Datagram, carry p now family packet t = (do
      let quoted ← carryQuoted p now family quote
      let d ← (finish quoted : Except Fault Datagram)
      return .forward d : ForwardM Outcome) s := by
  cases family with
  | ipv4 =>
    obtain ⟨read, h, c, dst, hadm, hnature, hdst, rfl⟩ := presents_ipv4_iff.1 hpresents
    let src := p.embed read.header.src
    let finish (quoted : Assembly) : Except Fault Datagram := do
      let message := (messageFront c ++ quoted).shorten (errorLimit - IPv6.Header.size)
      let body ← sealMessage message (Checksum.pseudoSum6 src dst (Protocol.icmp .ipv6).number message.size)
      let whole ← wrap6 .outer read (.message h c) src dst body.size body
      return { body := whole, destination := .ipv6 dst }
    refine ⟨finish, ?_⟩
    have hresolve : resolve6 p now .outer read.header t = (.ok (src, dst), s) := resolve6_outer_eq_ok.2 ⟨rfl, hdst⟩
    show toIPv6 p now packet t = _
    rw [toIPv6_of_admitted hadm, bind_of_ok hresolve]
    simp only [body6, messageBody6, hnature, bind_apply, carryQuoted]
    rcases quoteIPv6 p now (read.payload.drop Icmp.Header.size) s with ⟨_ | quoted, s'⟩
    · rfl
    · simp only [liftFault_apply, pure_apply, finish]
      rcases sealMessage ((messageFront c ++ quoted).shorten (errorLimit - IPv6.Header.size)) _ with _ | body
      · rfl
      · simp only [Except.mapError, bind, Except.bind]
        rcases wrap6 .outer read (.message h c) src dst body.size body with _ | whole <;> rfl
  | ipv6 =>
    obtain ⟨read, h, c, src, hread, hhops, hadm, hnature, hsrc, rfl⟩ := presents_ipv6_iff.1 hpresents
    let dst := p.extract read.header.dst
    let finish (quoted : Assembly) : Except Fault Datagram := do
      let body ← sealMessage (messageFront c ++ quoted) 0
      let whole ← wrap4 .outer read (.message h c) src dst body.size body
      return { body := whole, destination := .ipv4 dst }
    refine ⟨finish, ?_⟩
    have hresolve : resolve4 p now .outer read.header t = (.ok (src, dst), s) := resolve4_outer_eq_ok.2 ⟨hsrc, rfl⟩
    show toIPv4 p now packet t = _
    rw [toIPv4_of_admitted hread hhops hadm, bind_of_ok hresolve]
    simp only [body4, messageBody4, hnature, bind_apply, carryQuoted]
    rcases quoteIPv4 p now (read.payload.drop Icmp.Header.size) s with ⟨_ | quoted, s'⟩
    · rfl
    · simp only [liftFault_apply, pure_apply, finish]
      rcases sealMessage (messageFront c ++ quoted) 0 with _ | body
      · rfl
      · simp only [Except.mapError, bind, Except.bind]
        rcases wrap4 .outer read (.message h c) src dst body.size body with _ | whole <;> rfl

/-! ## Quoted datagrams -/

/-- A datagram that is turned away looks up nothing. -/
theorem carryQuoted_of_refused (p : Prefix) (now : Nat) (s : LeaseTable) (hrefuses : RefusesQuote family quote r) :
    carryQuoted p now family quote s = (.error r, s) := by
  cases family with
  | ipv4 => exact bind_of_error (lift_of_error hrefuses)
  | ipv6 =>
    rcases hrefuses with ⟨f, hread, rfl⟩ | ⟨read, hread, hadm⟩
    · exact bind_of_error (liftFault_of_error hread)
    · show quoteIPv4 p now quote s = _
      rw [quoteIPv4, bind_of_ok (liftFault_eq_ok.2 ⟨hread, rfl⟩)]
      exact bind_of_error (lift_of_error hadm)

/-- The lease of a quoted datagram that may pass is looked up, and nothing but a fault can stop it then. -/
theorem quoteIPv4_of_admit6 (p : Prefix) (now : Nat) (s : LeaseTable) {read : IPv6.Packet} {content : Content}
    (hread : IPv6.Packet.decode .quoted quote = .ok read) (hadm : admit6 .quoted read = .ok content) :
    ∃ x : Except Fault Assembly, quoteIPv4 p now quote s = (x.mapError .fault, (s.leaseFor now read.header.dst).2) := by
  rw [quoteIPv4, bind_of_ok (liftFault_eq_ok.2 ⟨hread, rfl⟩), bind_of_ok (lift_eq_ok.2 ⟨hadm, rfl⟩)]
  rcases hdst : s.leaseFor now read.header.dst with ⟨f | dst, s'⟩
  · exact ⟨.error f, bind_of_error (resolve4_of_error .quoted hdst)⟩
  · have hresolve : resolve4 p now .quoted read.header s = (.ok (p.extract read.header.src, dst), s') :=
      resolve4_quoted_eq_ok.2 ⟨rfl, hdst⟩
    rw [bind_of_ok hresolve]
    exact ⟨_, liftFault_apply _ _⟩

/-- The lease of a quoted datagram that may pass is looked up, and nothing but a fault can stop it then. -/
theorem quoteIPv6_of_admit4 (p : Prefix) (now : Nat) (s : LeaseTable) {read : IPv4.Packet} {content : Content}
    (hadm : admit4 .quoted quote = .ok (read, content)) :
    ∃ x : Except Fault Assembly,
      quoteIPv6 p now quote s = (x.mapError .fault, (s.findHolder now read.header.src).2) := by
  rw [quoteIPv6, bind_of_ok (lift_eq_ok.2 ⟨hadm, rfl⟩)]
  rcases hsrc : s.findHolder now read.header.src with ⟨f | src, s'⟩
  · exact ⟨.error f, bind_of_error (resolve6_of_error .quoted hsrc)⟩
  · have hresolve : resolve6 p now .quoted read.header s = (.ok (src, p.embed read.header.dst), s') :=
      resolve6_quoted_eq_ok.2 ⟨hsrc, rfl⟩
    exact ⟨_, (bind_of_ok hresolve).trans (liftFault_apply _ _)⟩

/-! ## Courses -/

/-- A packet is neither dropped nor answered. -/
def Proceeds (r : Except Refusal Outcome) : Prop := (∃ d, r = .ok (.forward d)) ∨ ∃ f, r = .error (.fault f)

/-- How far a received packet of a family gets: what becomes of it, and the leases that it leaves. -/
inductive Course (now : Nat) (t : LeaseTable) (packet : Bytes) : Family → Except Refusal Outcome → LeaseTable → Prop
  /-- It is refused or answered as it stands. -/
  | turnedAway {family : Family} {r : Except Refusal Outcome} (h : ∀ d, r ≠ .ok (.forward d)) :
    Course now t packet family r t
  /-- The lease on its receiver is the only one that is looked up. -/
  | receiver {read : IPv4.Packet} {content : Content} {r : Except Refusal Outcome}
      (hadm : admit4 .outer packet = .ok (read, content)) (h : Proceeds r) :
      Course now t packet .ipv4 r (t.findHolder now read.header.dst).2
  /-- The lease of its sender is the only one that is looked up. -/
  | sender {read : IPv6.Packet} {r : Except Refusal Outcome} (hread : IPv6.Packet.decode .outer packet = .ok read)
      (h : Proceeds r) : Course now t packet .ipv6 r (t.leaseFor now read.header.src).2
  /-- The datagram that it quotes is turned away. -/
  | refused {family : Family} {quote : Bytes} {s : LeaseTable} {refusal : Refusal}
      (hpresents : Presents now t family packet quote s) (hrefuses : RefusesQuote family quote refusal) :
      Course now t packet family (.error refusal) s
  /-- The lease on the sender of the quoted datagram is looked up as well. -/
  | quotedSender {quote : Bytes} {s : LeaseTable} {read : IPv4.Packet} {content : Content} {r : Except Refusal Outcome}
      (hpresents : Presents now t .ipv4 packet quote s) (hadm : admit4 .quoted quote = .ok (read, content))
      (h : Proceeds r) : Course now t packet .ipv4 r (s.findHolder now read.header.src).2
  /-- The lease of the receiver of the quoted datagram is looked up as well. -/
  | quotedReceiver {quote : Bytes} {s : LeaseTable} {read : IPv6.Packet} {content : Content}
      {r : Except Refusal Outcome} (hpresents : Presents now t .ipv6 packet quote s)
      (hread : IPv6.Packet.decode .quoted quote = .ok read) (hadm : admit6 .quoted read = .ok content)
      (h : Proceeds r) : Course now t packet .ipv6 r (s.leaseFor now read.header.dst).2

/-- A step that completes a packet or finds a fault, without a look at the leases. -/
def Completes (step : ForwardM Outcome) : Prop := ∀ s, (step s).2 = s ∧ Proceeds (step s).1

theorem completes_forward (d : Datagram) : Completes (pure (.forward d)) := fun _ => ⟨rfl, Or.inl ⟨d, rfl⟩⟩

theorem completes_bind {x : Except Fault α} {f : α → ForwardM Outcome} (hf : ∀ a, Completes (f a)) :
    Completes ((liftM x : ForwardM α) >>= f) := by
  intro s
  rcases x with fault | a
  · exact ⟨rfl, Or.inr ⟨fault, rfl⟩⟩
  · exact hf a s

/-- An error that is looked into ends as its quotation does, but for what is wrong with the whole. -/
theorem course_of_presents (p : Prefix) (hpresents : Presents now t family packet quote s) :
    Course now t packet family (carry p now family packet t).1 (carry p now family packet t).2 := by
  obtain ⟨finish, hcarry⟩ := carry_of_presents p hpresents
  rw [hcarry]
  have hproceeds (x : Except Fault Assembly) (s' : LeaseTable)
      (h : carryQuoted p now family quote s = (x.mapError .fault, s')) :
      ((do
        let quoted ← carryQuoted p now family quote
        let d ← (finish quoted : Except Fault Datagram)
        return .forward d : ForwardM Outcome) s).2 = s' ∧
      Proceeds ((do
        let quoted ← carryQuoted p now family quote
        let d ← (finish quoted : Except Fault Datagram)
        return .forward d : ForwardM Outcome) s).1 := by
    rcases x with f | quoted
    · rw [bind_of_error h]
      exact ⟨rfl, Or.inr ⟨f, rfl⟩⟩
    · rw [bind_of_ok h]
      exact completes_bind completes_forward s'
  cases family with
  | ipv4 =>
    rcases hadm : admit4 .quoted quote with refusal | ⟨read, content⟩
    · have hrefuses : RefusesQuote .ipv4 quote refusal := hadm
      rw [bind_of_error (carryQuoted_of_refused p now s hrefuses)]
      exact .refused hpresents hrefuses
    · obtain ⟨x, hx⟩ := quoteIPv6_of_admit4 p now s hadm
      obtain ⟨htable, hresult⟩ := hproceeds x _ hx
      rw [htable]
      exact .quotedSender hpresents hadm hresult
  | ipv6 =>
    rcases hread : IPv6.Packet.decode .quoted quote with f | read
    · have hrefuses : RefusesQuote .ipv6 quote (.fault f) := Or.inl ⟨f, hread, rfl⟩
      rw [bind_of_error (carryQuoted_of_refused p now s hrefuses)]
      exact .refused hpresents hrefuses
    · rcases hadm : admit6 .quoted read with refusal | content
      · have hrefuses : RefusesQuote .ipv6 quote refusal := Or.inr ⟨read, hread, hadm⟩
        rw [bind_of_error (carryQuoted_of_refused p now s hrefuses)]
        exact .refused hpresents hrefuses
      · obtain ⟨x, hx⟩ := quoteIPv4_of_admit6 p now s hread hadm
        obtain ⟨htable, hresult⟩ := hproceeds x _ hx
        rw [htable]
        exact .quotedReceiver hpresents hread hadm hresult

theorem course_toIPv6 (p : Prefix) (now : Nat) (t : LeaseTable) (packet : Bytes) :
    Course now t packet .ipv4 (toIPv6 p now packet t).1 (toIPv6 p now packet t).2 := by
  rcases hadm : admit4 .outer packet with refusal | ⟨read, content⟩
  · have hrefused : toIPv6 p now packet t = (.error refusal, t) := bind_of_error (lift_of_error hadm)
    rw [hrefused]
    exact .turnedAway fun _ h => nomatch h
  rcases hdst : t.findHolder now read.header.dst with ⟨f | dst, s⟩
  · have htable : s = (t.findHolder now read.header.dst).2 := by rw [hdst]
    rw [toIPv6_of_admitted hadm, bind_of_error (resolve6_of_error .outer hdst), htable]
    exact .receiver hadm (Or.inr ⟨f, rfl⟩)
  have hresolve : resolve6 p now .outer read.header t = (.ok (p.embed read.header.src, dst), s) :=
    resolve6_outer_eq_ok.2 ⟨rfl, hdst⟩
  have hown (h : (toIPv6 p now packet t).2 = s ∧ Proceeds (toIPv6 p now packet t).1) :
      Course now t packet .ipv4 (toIPv6 p now packet t).1 (toIPv6 p now packet t).2 := by
    have htable : s = (t.findHolder now read.header.dst).2 := by rw [hdst]
    rw [h.1, htable]
    exact .receiver hadm h.2
  cases content with
  | transport k =>
    refine hown ?_
    rw [toIPv6_of_admitted hadm, bind_of_ok hresolve]
    exact completes_bind (fun _ => completes_bind fun _ => completes_forward _) s
  | message h c =>
    rcases hnature : c.nature with _ | _
    · refine hown ?_
      rw [toIPv6_of_admitted hadm, bind_of_ok hresolve]
      simp only [body6, messageBody6, hnature]
      exact completes_bind (fun _ => completes_bind fun _ => completes_forward _) s
    · exact course_of_presents p (presents_ipv4_iff.2 ⟨read, h, c, dst, hadm, hnature, hdst, rfl⟩)

theorem course_toIPv4 (p : Prefix) (now : Nat) (t : LeaseTable) (packet : Bytes) :
    Course now t packet .ipv6 (toIPv4 p now packet t).1 (toIPv4 p now packet t).2 := by
  rcases hread : IPv6.Packet.decode .outer packet with f | read
  · have hrefused : toIPv4 p now packet t = (.error (.fault f), t) := bind_of_error (liftFault_of_error hread)
    rw [hrefused]
    exact .turnedAway fun _ h => nomatch h
  by_cases hhops : read.header.hopLimit ≤ 1
  · rw [toIPv4_expired hread hhops]
    refine .turnedAway fun d => ?_
    rcases timeExceeded? read with _ | answer <;> intro h <;> cases h
  rcases hadm : admit6 .outer read with refusal | content
  · have hrefused : toIPv4 p now packet t = (.error refusal, t) := by
      rw [toIPv4, bind_of_ok (liftFault_eq_ok.2 ⟨hread, rfl⟩), if_neg hhops]
      exact bind_of_error (lift_of_error hadm)
    rw [hrefused]
    exact .turnedAway fun _ h => nomatch h
  rcases hsrc : t.leaseFor now read.header.src with ⟨f | src, s⟩
  · have htable : s = (t.leaseFor now read.header.src).2 := by rw [hsrc]
    rw [toIPv4_of_admitted hread hhops hadm, bind_of_error (resolve4_of_error .outer hsrc), htable]
    exact .sender hread (Or.inr ⟨f, rfl⟩)
  have hresolve : resolve4 p now .outer read.header t = (.ok (src, p.extract read.header.dst), s) :=
    resolve4_outer_eq_ok.2 ⟨hsrc, rfl⟩
  have hown (h : (toIPv4 p now packet t).2 = s ∧ Proceeds (toIPv4 p now packet t).1) :
      Course now t packet .ipv6 (toIPv4 p now packet t).1 (toIPv4 p now packet t).2 := by
    have htable : s = (t.leaseFor now read.header.src).2 := by rw [hsrc]
    rw [h.1, htable]
    exact .sender hread h.2
  cases content with
  | transport k =>
    refine hown ?_
    rw [toIPv4_of_admitted hread hhops hadm, bind_of_ok hresolve]
    exact completes_bind (fun _ => completes_bind fun _ => completes_forward _) s
  | message h c =>
    rcases hnature : c.nature with _ | _
    · refine hown ?_
      rw [toIPv4_of_admitted hread hhops hadm, bind_of_ok hresolve]
      simp only [body4, messageBody4, hnature]
      exact completes_bind (fun _ => completes_bind fun _ => completes_forward _) s
    · exact course_of_presents p (presents_ipv6_iff.2 ⟨read, h, c, src, hread, hhops, hadm, hnature, hsrc, rfl⟩)

/-- Every received packet takes one of these courses. -/
theorem course_carry (p : Prefix) (now : Nat) (t : LeaseTable) (family : Family) (packet : Bytes) :
    Course now t packet family (carry p now family packet t).1 (carry p now family packet t).2 := by
  cases family with
  | ipv4 => exact course_toIPv6 p now t packet
  | ipv6 => exact course_toIPv4 p now t packet

/-! ## The gateway -/

theorem family?_of_presents (h : Presents now t family packet quote s) : Frame.family? packet = some family := by
  cases h with
  | ipv4 hopens => exact IPv4.Header.family?_of_decode hopens.header_eq
  | ipv6 hopens => exact IPv6.Header.family?_of_decode hopens.header_eq

/-- A presented error whose quotation is turned away is turned away for the same reason. -/
theorem carry_of_refused (p : Prefix) (hpresents : Presents now t family packet quote s)
    (hrefuses : RefusesQuote family quote r) : carry p now family packet t = (.error r, s) := by
  obtain ⟨finish, hcarry⟩ := carry_of_presents p hpresents
  rw [hcarry]
  exact bind_of_error (carryQuoted_of_refused p now s hrefuses)

end Forwarding

theorem Gateway.translateAs_eq_settle (g : Gateway) (now : Nat) (family : Family) (packet : Bytes) :
    g.translateAs now family packet =
      ((Forwarding.settle (Forwarding.carry g.embedding now family packet) g.leases).1,
        { g with leases := (Forwarding.carry g.embedding now family packet g.leases).2 }) := by
  rw [← Forwarding.settle_snd]
  cases family <;> rfl

end Nat64
