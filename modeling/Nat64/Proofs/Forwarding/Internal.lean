import Nat64.Proofs.Forwarding.Sizes

/-!
# Checks that never fail

Three faults report a check that nothing received from outside can make fail: a quoted datagram that is answered, a
message without room for its checksum, and a packet too large for IPv6. No packet is refused with one of them, and they
come out of the gateway only where the egress has put them in.

* `EndsIn`: the errors that a computation may end with.
* `Fault.OfPacket`: the faults of a received packet. They concern this packet only, and none of them is internal.
* `Fault.Intrinsic`, `Fault.OfBytes`: those among them that do not come from the leases, and those that find fault with
  the bytes.
* `Forwarding.justified_toIPv4`, `Forwarding.justified_toIPv6`: what a received packet may be refused with.
* `Gateway.translate_external`, `Gateway.process_external`, `Gateway.handle_external`: what the gateway reports.
-/

namespace Nat64

/-- A datagram that an error quotes was answered. -/
def Malformation.embeddedReply : Malformation := .other "Embedded datagram produced a reply"

/-- Whether a fault reports a check that never fails. -/
def Fault.isInternal : Fault → Bool
  | .malformed (.noChecksumField _) => true
  | .malformed what => what = .oversizedIPv6 ∨ what = .embeddedReply
  | _ => false

/-- The fault is not internal. -/
abbrev Fault.IsExternal (f : Fault) : Prop := f.isInternal = false

/-- A fault that a received packet may be refused with. -/
structure Fault.OfPacket (f : Fault) : Prop where
  external : f.IsExternal
  packetLevel : f.isPacketLevel = true

/-- A refusal that a received packet may meet: it is dropped, or it has such a fault. -/
def Refusal.OfPacket : Refusal → Prop
  | .drop _ => True
  | .fault f => f.OfPacket

/-- Whether a fault reports that a lease was looked up in vain. -/
def Fault.isLookup : Fault → Bool
  | .noLease _ => true
  | .poolExhausted _ => true
  | _ => false

/-- A fault of a received packet that it has whatever the leases are. -/
structure Fault.Intrinsic (f : Fault) : Prop extends f.OfPacket where
  notLookup : f.isLookup = false

/-- A refusal that a received packet meets whatever the leases are. -/
def Refusal.Intrinsic : Refusal → Prop
  | .drop _ => True
  | .fault f => f.Intrinsic

theorem Refusal.Intrinsic.ofPacket {r : Refusal} (h : r.Intrinsic) : r.OfPacket := by
  cases r with
  | drop reason => trivial
  | fault f => exact h.toOfPacket

/-- A complaint about the bytes of a packet. -/
def Fault.OfBytes : Fault → Prop
  | .malformed what => (Fault.malformed what).IsExternal
  | _ => False

theorem Fault.OfBytes.intrinsic {f : Fault} (h : f.OfBytes) : f.Intrinsic := by
  cases f with
  | malformed what => exact ⟨⟨h, rfl⟩, rfl⟩
  | _ => exact h.elim

/-! ## Errors of computations -/

/-- A computation that ends with an error ends with one that has the property. -/
def EndsIn {ε α : Type} (P : ε → Prop) (r : Except ε α) : Prop := ∀ e, r = .error e → P e

namespace EndsIn

variable {ε α β : Type} {P : ε → Prop} {r x y : Except ε α} {e : ε}

theorem ok (a : α) : EndsIn P (.ok a) := fun _ h => nomatch h

theorem error (h : P e) : EndsIn P (.error e : Except ε α) := by
  rintro _ ⟨⟩
  exact h

theorem throw_bind (h : P e) (f : β → Except ε α) : EndsIn P ((MonadExcept.throw e : Except ε β) >>= f) := error h

theorem mono {Q : ε → Prop} (h : EndsIn P r) (hPQ : ∀ e, P e → Q e) : EndsIn Q r := fun e he => hPQ e (h e he)

theorem bind {f : α → Except ε β} (hx : EndsIn P x) (hf : ∀ a, x = .ok a → EndsIn P (f a)) : EndsIn P (x >>= f) := by
  cases x with
  | error e => exact error (hx e rfl)
  | ok a => exact hf a rfl

theorem ite {c : Prop} [Decidable c] (hx : c → EndsIn P x) (hy : ¬ c → EndsIn P y) : EndsIn P (if c then x else y) := by
  split
  · exact hx ‹_›
  · exact hy ‹_›

end EndsIn

theorem EndsIn.refusal {α : Type} {r : Except Fault α} (h : EndsIn Fault.Intrinsic r) :
    EndsIn Refusal.Intrinsic (liftM r : Except Refusal α) := by
  cases r with
  | error f => exact .error (h f rfl)
  | ok a => exact .ok a

/-! ## What is read -/

theorem EndsIn.intrinsic {α : Type} {r : Except Fault α} (h : EndsIn Fault.OfBytes r) : EndsIn Fault.Intrinsic r :=
  h.mono fun _ hf => hf.intrinsic

theorem endsIn_ensure (part : Part) (size needed : Nat) : EndsIn Fault.OfBytes (part.ensure size needed) :=
  .ite (fun _ => .error rfl) fun _ => .ok ()

theorem IPv6.endsIn_decode (level : Level) (data : Bytes) : EndsIn Fault.OfBytes (Packet.decode level data) := by
  have hheader : EndsIn Fault.OfBytes (Header.decode data) :=
    (endsIn_ensure _ _ _).bind fun _ _ => .ite (fun _ => .ok _) fun _ => .throw_bind (by rfl) _
  exact hheader.bind fun header _ => .ite (fun _ => .throw_bind (by rfl) _) fun _ => .ok _

theorem IPv4.endsIn_decode (level : Level) (data : Bytes) : EndsIn Fault.OfBytes (Packet.decode level data) := by
  have hheader : EndsIn Fault.OfBytes (Header.decode data) :=
    (endsIn_ensure _ _ _).bind fun _ _ => .ite
      (fun _ => .ite (fun _ => .throw_bind (by rfl) _) fun _ => (endsIn_ensure _ _ _).bind fun _ _ => .ok _)
      fun _ => .throw_bind (by rfl) _
  refine hheader.bind fun header _ => EndsIn.bind (.ite (fun _ => .error rfl) fun _ => .ok _) fun length _ => ?_
  exact .ite (fun _ => .throw_bind (by rfl) _) fun _ => .ok _

theorem Transport.endsIn_headerLength (t : Transport) (data : Bytes) : EndsIn Fault.OfBytes (t.headerLength data) := by
  cases t with
  | udp => exact EndsIn.bind ((endsIn_ensure _ _ _).bind fun _ _ => .ok _) fun _ _ => .ok _
  | tcp =>
    have hheader : EndsIn Fault.OfBytes (Tcp.Header.decode data) :=
      (endsIn_ensure _ _ _).bind fun _ _ => .ite (fun _ => .throw_bind (by rfl) _) fun _ =>
        (endsIn_ensure _ _ _).bind fun _ _ => .ok _
    exact hheader.bind fun _ _ => .ok _

theorem Icmp.endsIn_counterpart (family : Family) (h : Header) : EndsIn Fault.Intrinsic (counterpart family h) := by
  cases family with
  | ipv4 =>
    show EndsIn Fault.Intrinsic (toIPv6 h)
    unfold toIPv6
    repeat' split
    all_goals first
      | exact .ok _
      | exact .error ⟨⟨rfl, rfl⟩, rfl⟩
  | ipv6 =>
    show EndsIn Fault.Intrinsic (toIPv4 h)
    unfold toIPv4
    repeat' split
    all_goals first
      | exact .ok _
      | exact .error ⟨⟨rfl, rfl⟩, rfl⟩

namespace Forwarding

theorem Content.endsIn_classify (family : Family) (level : Level) (protocol : UInt8) (payload : Bytes) :
    EndsIn Refusal.Intrinsic (Content.classify family level protocol payload) := by
  have hheader : EndsIn Fault.OfBytes (Icmp.Header.decode payload) := (endsIn_ensure _ _ _).bind fun _ _ => .ok _
  unfold Content.classify
  rcases Protocol.ofNumber? protocol with _ | (t | f)
  · exact .error trivial
  · exact .ok _
  · refine .ite (fun _ => ?_) fun _ => .throw_bind trivial _
    refine hheader.intrinsic.refusal.bind fun h _ =>
      .ite (fun _ => .throw_bind ⟨⟨by rfl, by rfl⟩, by rfl⟩ _) fun _ => ?_
    refine (Icmp.endsIn_counterpart family h).refusal.bind fun c _ => ?_
    rcases c with _ | c
    · exact .error trivial
    · exact .ok _

theorem endsIn_admit4 (level : Level) (data : Bytes) : EndsIn Refusal.Intrinsic (admit4 level data) := by
  refine (IPv4.endsIn_decode level data).intrinsic.refusal.bind fun packet _ => ?_
  refine .ite (fun _ => .throw_bind trivial _) fun _ => .ite (fun _ => .throw_bind trivial _) fun _ => ?_
  exact (Content.endsIn_classify .ipv4 level _ _).bind fun content _ => .ok _

/-! ## What is built -/

/-- Wherever there is a header there is room for a checksum. -/
theorem endsIn_transportBody (t : Transport) (message : Bytes) (pseudo : Nat) :
    EndsIn Fault.Intrinsic (transportBody t message pseudo) := by
  rcases hn : t.headerLength message with f | n
  · rw [transportBody, hn]
    exact .error (Transport.endsIn_headerLength t message f hn).intrinsic
  · obtain ⟨body, hbody⟩ := exists_transportBody hn pseudo
    rw [hbody]
    exact .ok body

/-- A message with its own header in front has room for a checksum. -/
theorem endsIn_sealMessage {body : Assembly} {c : Icmp.Counterpart}
    (h : body.StartsWith [⟨.icmp, (c.header 0).encode⟩]) (pseudo : Nat) :
    EndsIn Fault.Intrinsic (sealMessage body pseudo) := by
  obtain ⟨whole, hwhole⟩ := exists_sealMessage h pseudo
  rw [hwhole]
  exact .ok whole

theorem endsIn_wrap4 (level : Level) (packet : IPv6.Packet) (content : Content) (src dst : IPv4) (length : Nat)
    (body : Assembly) : EndsIn Fault.Intrinsic (wrap4 level packet content src dst length body) :=
  .ite (fun _ => .error ⟨⟨rfl, rfl⟩, rfl⟩) fun _ => .ok _

theorem endsIn_wrap6 (level : Level) (packet : IPv4.Packet) (content : Content) (src dst : IPv6) {length : Nat}
    (h : length ≤ 0xffff) (body : Assembly) :
    EndsIn Fault.Intrinsic (wrap6 level packet content src dst length body) :=
  .ite (fun hlarge => absurd h (Nat.not_le.2 hlarge)) fun _ => .ok _

/-! ## Steps -/

section Steps

variable {α β : Type} {p : Prefix} {now : Nat} {t : LeaseTable} {data : Bytes}

/-- The step refuses a packet for its own faults only. -/
def Justified (step : ForwardM α) (t : LeaseTable) : Prop := EndsIn Refusal.OfPacket (step t).1

theorem justified_pure (a : α) (t : LeaseTable) : Justified (pure a) t := .ok a

theorem justified_drop (reason : DropReason) (t : LeaseTable) : Justified (throw (.drop reason) : ForwardM α) t :=
  .error trivial

theorem justified_lift {r : Except Refusal α} (h : EndsIn Refusal.Intrinsic r) (t : LeaseTable) :
    Justified (liftM r : ForwardM α) t := h.mono fun _ hr => hr.ofPacket

theorem justified_liftFault {r : Except Fault α} (h : EndsIn Fault.Intrinsic r) (t : LeaseTable) :
    Justified (liftM r : ForwardM α) t := justified_lift h.refusal t

theorem justified_bind {x : ForwardM α} {f : α → ForwardM β} (hx : Justified x t)
    (hf : ∀ a s, x t = (.ok a, s) → Justified (f a) s) : Justified (x >>= f) t := by
  unfold Justified at hx ⊢
  rw [bind_apply]
  rcases hr : x t with ⟨r | a, s⟩
  · rw [hr] at hx
    exact .error (hx r rfl)
  · exact hf a s hr

theorem justified_leaseFor (now : Nat) (host : IPv6) (t : LeaseTable) : Justified (leaseFor now host) t := by
  show EndsIn _ ((t.leaseFor now host).1.mapError _)
  unfold LeaseTable.leaseFor LeaseTable.grant
  repeat' split
  all_goals first
    | exact .ok _
    | exact .error ⟨rfl, rfl⟩

theorem justified_findHolder (now : Nat) (a : IPv4) (t : LeaseTable) : Justified (findHolder now a) t := by
  show EndsIn _ ((t.findHolder now a).1.mapError _)
  unfold LeaseTable.findHolder
  split
  · exact .ok _
  · exact .error ⟨rfl, rfl⟩

theorem justified_resolve4 (level : Level) (h : IPv6.Header) (t : LeaseTable) :
    Justified (resolve4 p now level h) t := by
  cases level
  · exact justified_bind (justified_leaseFor _ _ t) fun _ s _ => justified_pure _ s
  · exact justified_bind (justified_leaseFor _ _ t) fun _ s _ => justified_pure _ s

theorem justified_resolve6 (level : Level) (h : IPv4.Header) (t : LeaseTable) :
    Justified (resolve6 p now level h) t := by
  cases level
  · exact justified_bind (justified_findHolder _ _ t) fun _ s _ => justified_pure _ s
  · exact justified_bind (justified_findHolder _ _ t) fun _ s _ => justified_pure _ s

/-! ## To IPv4 -/

theorem justified_quoteIPv4 (data : Bytes) (t : LeaseTable) : Justified (quoteIPv4 p now data) t :=
  justified_bind (justified_liftFault (IPv6.endsIn_decode _ _).intrinsic t) fun _ s _ =>
    justified_bind (justified_lift (Content.endsIn_classify _ _ _ _) s) fun _ s _ =>
      justified_bind (justified_resolve4 _ _ s) fun _ s _ => justified_liftFault (endsIn_wrap4 _ _ _ _ _ _ _) s

theorem justified_messageBody4 (c : Icmp.Counterpart) (rest : Bytes) (t : LeaseTable) :
    Justified (messageBody4 p now c rest) t := by
  unfold messageBody4
  split
  · exact justified_pure _ t
  · exact justified_bind (justified_quoteIPv4 rest t) fun _ s _ => justified_pure _ s

theorem justified_body4 (packet : IPv6.Packet) (content : Content) (src dst : IPv4) (t : LeaseTable) :
    Justified (body4 p now packet content src dst) t := by
  cases content with
  | transport k => exact justified_liftFault (endsIn_transportBody k _ _) t
  | message h c =>
    refine justified_bind (justified_messageBody4 c _ t) fun body s hbody => ?_
    exact justified_liftFault (endsIn_sealMessage (startsWith_messageBody4 hbody) 0) s

theorem justified_toIPv4 (data : Bytes) (t : LeaseTable) : Justified (toIPv4 p now data) t := by
  refine justified_bind (justified_liftFault (IPv6.endsIn_decode _ _).intrinsic t) fun packet s _ => ?_
  split
  · split
    · exact justified_pure _ s
    · exact justified_drop _ s
  · exact justified_bind (justified_lift (Content.endsIn_classify _ _ _ _) s) fun content s _ =>
      justified_bind (justified_resolve4 _ _ s) fun _ s _ => justified_bind (justified_body4 _ _ _ _ s) fun _ s _ =>
        justified_bind (justified_liftFault (endsIn_wrap4 _ _ _ _ _ _ _) s) fun _ s _ => justified_pure _ s

/-! ## To IPv6 -/

theorem justified_quoteIPv6 (data : Bytes) (t : LeaseTable) : Justified (quoteIPv6 p now data) t := by
  refine justified_bind (justified_lift (endsIn_admit4 _ _) t) fun admitted s hadm => ?_
  obtain ⟨packet, content⟩ := admitted
  have hlength := IPv4.Packet.payloadLength_lt (admit4_eq_ok.1 (lift_eq_ok.1 hadm).1).1
  exact justified_bind (justified_resolve6 _ _ s) fun _ s _ =>
    justified_liftFault (endsIn_wrap6 _ _ _ _ _ (Nat.le_of_lt_succ hlength) _) s

theorem justified_messageBody6 (c : Icmp.Counterpart) (rest : Bytes) (t : LeaseTable) :
    Justified (messageBody6 p now c rest) t := by
  unfold messageBody6
  split
  · exact justified_pure _ t
  · exact justified_bind (justified_quoteIPv6 rest t) fun _ s _ => justified_pure _ s

theorem justified_body6 (packet : IPv4.Packet) (content : Content) (src dst : IPv6) (t : LeaseTable) :
    Justified (body6 p now packet content src dst) t := by
  cases content with
  | transport k => exact justified_liftFault (endsIn_transportBody k _ _) t
  | message h c =>
    refine justified_bind (justified_messageBody6 c _ t) fun body s hbody => ?_
    exact justified_liftFault (endsIn_sealMessage (startsWith_messageBody6 hbody) _) s

theorem justified_toIPv6 (data : Bytes) (t : LeaseTable) : Justified (toIPv6 p now data) t := by
  refine justified_bind (justified_lift (endsIn_admit4 _ _) t) fun admitted s hadm => ?_
  obtain ⟨packet, content⟩ := admitted
  have hpacket := (admit4_eq_ok.1 (lift_eq_ok.1 hadm).1).1
  refine justified_bind (justified_resolve6 _ _ s) fun resolved s _ => ?_
  obtain ⟨src, dst⟩ := resolved
  refine justified_bind (justified_body6 _ _ _ _ s) fun body s hbody => ?_
  exact justified_bind (justified_liftFault (endsIn_wrap6 _ _ _ _ _ (within_body6 hpacket hbody).size_le _) s)
    fun _ s _ => justified_pure _ s

end Steps

theorem endsIn_settle {step : ForwardM Outcome} {t : LeaseTable} (h : Justified step t) :
    EndsIn Fault.OfPacket (settle step t).1 := by
  unfold Justified at h
  unfold settle
  rcases hr : step t with ⟨(reason | f) | outcome, s⟩
  · exact .ok _
  · rw [hr] at h
    exact .error (h _ rfl)
  · exact .ok outcome

end Forwarding

/-! ## The gateway -/

/-- Internal faults concern one packet, so that not even they would end the work. -/
theorem Fault.isExternal_of_lasting {f : Fault} (h : f.isPacketLevel = false) : f.IsExternal := by
  cases f with
  | malformed what => nomatch h
  | _ => rfl

namespace Gateway

variable {σ : Type} {g : Gateway} {egress : Egress σ} {now : Nat} {packet : Bytes} {s : σ}

theorem translate_ofPacket (g : Gateway) (now : Nat) (packet : Bytes) :
    EndsIn Fault.OfPacket (g.translate now packet).1 := by
  unfold translate
  split
  · rename_i family _
    cases family with
    | ipv4 => exact Forwarding.endsIn_settle (Forwarding.justified_toIPv6 packet g.leases)
    | ipv6 => exact Forwarding.endsIn_settle (Forwarding.justified_toIPv4 packet g.leases)
  · split
    · exact .error ⟨rfl, rfl⟩
    · exact .error ⟨rfl, rfl⟩

theorem translate_external (g : Gateway) (now : Nat) (packet : Bytes) :
    EndsIn Fault.IsExternal (g.translate now packet).1 :=
  (translate_ofPacket g now packet).mono fun _ h => h.external

theorem deliver_external (egress : Egress σ) (d : Datagram) (s : σ) :
    EndsIn Fault.IsExternal (egress.deliver d s).1 := by
  unfold Egress.deliver
  split
  · exact .ok _
  · rename_i f _ _
    show EndsIn Fault.IsExternal (if f.isPacketLevel then .ok (Fate.failed f) else .error f)
    exact .ite (fun _ => .ok _) fun hlasting => .error (Fault.isExternal_of_lasting (Bool.not_eq_true _ ▸ hlasting))

/-- A fault that ends the work is none of the internal ones. -/
theorem process_external (g : Gateway) (egress : Egress σ) (now : Nat) (packet : Bytes) (s : σ) :
    EndsIn Fault.IsExternal (g.process egress now packet s).1 := by
  unfold process
  split
  · exact .ok _
  · exact .ok _
  · exact deliver_external egress _ s
  · exact deliver_external egress _ s

theorem deliver_failed {d : Datagram} {f : Fault} (h : (egress.deliver d s).1 = .ok (.failed f)) :
    (egress d s).1 = .error f := by
  unfold Egress.deliver at h
  split at h
  · cases h
  · rename_i f' s' hsend
    rw [hsend]
    change (if f'.isPacketLevel then Except.ok (Fate.failed f') else .error f') = .ok (.failed f) at h
    split at h
    · cases h
      rfl
    · cases h

/-- A packet that fails by an internal fault was refused by the egress with that fault. -/
theorem failed_external {f : Fault} (h : (g.process egress now packet s).1 = .ok (.failed f)) :
    f.IsExternal ∨ ∃ d, (egress d s).1 = .error f := by
  have hexternal := translate_external g now packet
  unfold process at h
  split at h
  · rename_i f' g' htranslate
    cases h
    rw [htranslate] at hexternal
    exact .inl (hexternal f rfl)
  · cases h
  · exact .inr ⟨_, deliver_failed h⟩
  · exact .inr ⟨_, deliver_failed h⟩

theorem handle_external (g : Gateway) (egress : Egress σ) (now : Nat) (frame : Bytes) (s : σ) :
    EndsIn Fault.IsExternal (g.handle egress now frame s).1 := by
  have hexternal := process_external g egress now frame s
  unfold handle
  split
  · exact .ok _
  · split
    · exact .ok _
    · rename_i f g' s' hprocess
      rw [hprocess] at hexternal
      exact .error (hexternal f rfl)

end Gateway

end Nat64
