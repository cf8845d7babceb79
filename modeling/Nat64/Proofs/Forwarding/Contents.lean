import Nat64.Proofs.Forwarding.Passage

/-!
# What packets carry

TCP, UDP and echo messages are carried over as they are; an error quotes a datagram that is carried over in its turn.
All other packets are turned away.

* `IPv4.Opens`, `IPv6.Opens`: a buffer opens with a whole packet.
* `Cargo`: a TCP, UDP or echo message, named alike in both families.
* `classify_cargo`, `classify_icmp_eq_ok`, `classify_quoted_eq_ok`: which packets are admitted, and as what.
-/

namespace Nat64

/-- The other family. -/
def Family.other : Family → Family
  | .ipv4 => .ipv6
  | .ipv6 => .ipv4

/-! ## Whole packets -/

/-- A buffer opens with a whole packet: its header, and the message that the header declares. -/
structure IPv4.Opens (data : Bytes) (h : Header) (message : Bytes) : Prop where
  header_eq : Header.decode data = .ok h
  length_eq : h.totalLength.toNat = h.headerLength + message.length
  message_eq : Bytes.slice data h.headerLength message.length = message

/-- A buffer opens with a whole packet: its header, and the message that the header declares. -/
structure IPv6.Opens (data : Bytes) (h : Header) (message : Bytes) : Prop where
  header_eq : Header.decode data = .ok h
  length_eq : h.payloadLength.toNat = message.length
  message_eq : Bytes.slice data Header.size message.length = message

/-- A field that was found reaches no further than the buffer. -/
theorem Bytes.le_of_slice {data message : Bytes} {offset : Nat} (h : slice data offset message.length = message) :
    message.length ≤ data.length - offset := by
  have hlength := congrArg List.length h
  rw [slice, List.length_take, List.length_drop] at hlength
  omega

section Packets

variable {level : Level} {data message : Bytes}

theorem IPv6.Packet.payload_eq {packet : IPv6.Packet} (h : IPv6.Packet.decode level data = .ok packet) :
    packet.payload = Bytes.slice data Header.size packet.payloadLength := by
  obtain ⟨-, -, hbytes⟩ := decode_eq_ok.1 h
  rw [payload, hbytes, List.drop_take, Nat.add_sub_cancel_left, Bytes.slice]

theorem IPv4.Packet.payload_eq {packet : IPv4.Packet} (h : IPv4.Packet.decode level data = .ok packet) :
    packet.payload = Bytes.slice data packet.header.headerLength packet.payloadLength := by
  obtain ⟨-, htotal, -, hpayload⟩ := decode_eq_ok.1 h
  rw [hpayload, ← htotal, List.drop_take, Nat.add_sub_cancel_left, Bytes.slice]

/-- A received IPv6 packet is as long as it declares. -/
theorem IPv6.Packet.length_payload {packet : IPv6.Packet} (h : IPv6.Packet.decode .outer data = .ok packet) :
    packet.payload.length = packet.payloadLength := by
  obtain ⟨-, hall, -⟩ := decode_eq_ok.1 h
  rw [payload_eq h, Bytes.length_slice (hall rfl)]

/-- A received IPv4 packet is as long as it declares. -/
theorem IPv4.Packet.length_payload {packet : IPv4.Packet} (h : IPv4.Packet.decode .outer data = .ok packet) :
    packet.payload.length = packet.payloadLength := by
  obtain ⟨-, htotal, hall, -⟩ := decode_eq_ok.1 h
  rw [← htotal] at hall
  rw [payload_eq h, Bytes.length_slice (hall rfl)]

theorem IPv6.Packet.opens {packet : IPv6.Packet} (h : IPv6.Packet.decode .outer data = .ok packet) :
    IPv6.Opens data packet.header packet.payload where
  header_eq := (decode_eq_ok.1 h).1
  length_eq := (length_payload h).symm
  message_eq := by rw [length_payload h, ← payload_eq h]

theorem IPv4.Packet.opens {packet : IPv4.Packet} (h : IPv4.Packet.decode .outer data = .ok packet) :
    IPv4.Opens data packet.header packet.payload where
  header_eq := (decode_eq_ok.1 h).1
  length_eq := by rw [length_payload h, (decode_eq_ok.1 h).2.1]
  message_eq := by rw [length_payload h, ← payload_eq h]

/-- A whole packet is read, wherever it stands. -/
theorem IPv6.Opens.decode {h : Header} (hopens : Opens data h message) (level : Level) :
    ∃ packet, Packet.decode level data = .ok packet ∧ packet.header = h ∧ packet.payload = message ∧
      packet.payloadLength = message.length := by
  have hread : Packet.decode level data = .ok ⟨h, data.take (Header.size + h.payloadLength.toNat)⟩ := by
    refine Packet.decode_eq_ok.2 ⟨hopens.header_eq, fun _ => ?_, rfl⟩
    have hsize := (Header.decode_eq_ok.1 hopens.header_eq).1
    have hmessage := Bytes.le_of_slice hopens.message_eq
    rw [Packet.payloadLength, hopens.length_eq]
    omega
  refine ⟨_, hread, rfl, ?_, hopens.length_eq⟩
  rw [Packet.payload_eq hread, Packet.payloadLength, hopens.length_eq, hopens.message_eq]

/-- A whole packet is read, wherever it stands. -/
theorem IPv4.Opens.decode {h : Header} (hopens : Opens data h message) (level : Level) :
    Packet.decode level data = .ok ⟨h, message.length, message⟩ := by
  have hsize := (Header.decode_eq_ok.1 hopens.header_eq).2.2.1
  have hheader : h.headerLength = Header.declaredSize data := by
    rw [(Header.decode_eq_ok.1 hopens.header_eq).2.2.2, Header.ofBytes]
  have hmessage := Bytes.le_of_slice hopens.message_eq
  refine Packet.decode_eq_ok.2 ⟨hopens.header_eq, hopens.length_eq.symm, fun _ => ?_, ?_⟩
  · rw [hopens.length_eq]
    omega
  · rw [hopens.length_eq, List.drop_take, Nat.add_sub_cancel_left]
    exact hopens.message_eq.symm

/-- A header that declares what follows it opens a packet. -/
theorem IPv4.HeaderFields.opens {f : HeaderFields} (h : f.totalLength.toNat = 20 + message.length) :
    IPv4.Opens (f.encode ++ message) f.header message where
  header_eq := f.decode_encode message
  length_eq := h
  message_eq := by
    have hfront : f.encode.length = f.header.headerLength := f.length_encode
    rw [Bytes.slice_append_right (Nat.le_of_eq hfront), hfront, Nat.sub_self]
    exact Bytes.slice_self (Nat.le_refl _)

/-- A header that declares what follows it opens a packet. -/
theorem IPv6.Header.opens {h : Header} (hlength : h.payloadLength.toNat = message.length) :
    IPv6.Opens (h.encode ++ message) h message where
  header_eq := h.decode_encode message
  length_eq := hlength
  message_eq := by
    have hfront : h.encode.length = size := h.length_encode
    rw [Bytes.slice_append_right (Nat.le_of_eq hfront), hfront, Nat.sub_self]
    exact Bytes.slice_self (Nat.le_refl _)

end Packets

/-! ## Messages that both families have -/

/-- The echo messages. -/
inductive Icmp.Echo where
  | request
  | reply
deriving DecidableEq, Repr

namespace Icmp.Echo

/-- The type of an echo message in a family. -/
def type : Family → Echo → UInt8
  | .ipv4, request => 8
  | .ipv4, reply => 0
  | .ipv6, request => 128
  | .ipv6, reply => 129

/-- An echo message of a family with a checksum; identifier, number and data follow. -/
def bytes (family : Family) (e : Echo) (checksum : UInt16) (rest : Bytes) : Bytes :=
  [e.type family, 0] ++ (Bytes.ofWord checksum ++ rest)

end Icmp.Echo

/-- A message that goes through as it is. -/
inductive Cargo where
  | transport (t : Transport)
  | echo (e : Icmp.Echo)
deriving DecidableEq, Repr

namespace Cargo

/-- The protocol number in a family. -/
def number (family : Family) : Cargo → UInt8
  | transport t => t.number
  | echo _ => (Protocol.icmp family).number

/-- What is read of a message of a family. -/
def content (family : Family) (message : Bytes) : Cargo → Forwarding.Content
  | transport t => .transport t
  | echo e =>
    let h := Icmp.Header.ofBytes message
    .message h (.echo (e.type family.other) h.rest)

/-- A message shows, cut short or not, what it is. -/
def Shows (family : Family) (message : Bytes) : Cargo → Prop
  | transport _ => True
  | echo e => 8 ≤ message.length ∧ Bytes.byteAt message 0 = e.type family

/-- A message has a complete header. -/
def Complete (family : Family) (message : Bytes) : Cargo → Prop
  | transport .tcp => 20 ≤ Tcp.Header.declaredLength message ∧ Tcp.Header.declaredLength message ≤ message.length
  | transport .udp => 8 ≤ message.length
  | echo e => (echo e).Shows family message

instance (family : Family) (message : Bytes) : (c : Cargo) → Decidable (c.Shows family message)
  | transport _ => inferInstanceAs (Decidable True)
  | echo e => inferInstanceAs (Decidable (8 ≤ message.length ∧ Bytes.byteAt message 0 = e.type family))

instance (family : Family) (message : Bytes) : (c : Cargo) → Decidable (c.Complete family message)
  | transport .tcp => inferInstanceAs (Decidable (20 ≤ Tcp.Header.declaredLength message ∧ _ ≤ message.length))
  | transport .udp => inferInstanceAs (Decidable (8 ≤ message.length))
  | echo e => inferInstanceAs (Decidable ((echo e).Shows family message))

theorem number_content (c : Cargo) (family family' : Family) (message : Bytes) :
    (c.content family message).number family' = c.number family' := by
  cases c <;> rfl

/-- The numbers of TCP and UDP stand for nothing else. -/
theorem eq_transport {family : Family} {t : Transport} {c : Cargo} (h : t.number = c.number family) :
    c = transport t := by
  cases c with
  | transport t' => cases t <;> cases t' <;> first | rfl | cases h
  | echo e => cases t <;> cases family <;> cases h

/-- The number of control messages stands for echo messages only. -/
theorem eq_echo {family : Family} {message : Bytes} {e : Icmp.Echo} {c : Cargo}
    (h : (Protocol.icmp family).number = c.number family) (hshows : c.Shows family message)
    (htype : Bytes.byteAt message 0 = e.type family) : c = echo e := by
  cases c with
  | transport t => cases t <;> cases family <;> cases h
  | echo e' =>
    have htypes : e.type family = e'.type family := htype.symm.trans hshows.2
    cases family <;> cases e <;> cases e' <;> first | rfl | cases htypes

theorem Complete.shows {family : Family} {message : Bytes} {c : Cargo} (h : c.Complete family message) :
    c.Shows family message := by
  cases c with
  | transport t => trivial
  | echo e => exact h

end Cargo

/-- A complete header has a size. -/
theorem Transport.headerLength_of_complete {t : Transport} {family : Family} {message : Bytes}
    (h : (Cargo.transport t).Complete family message) : ∃ n, t.headerLength message = .ok n := by
  cases t with
  | tcp =>
    obtain ⟨hlow, hhigh⟩ := h
    refine ⟨Tcp.Header.declaredLength message, ?_⟩
    simp only [headerLength, Tcp.Header.decode, Except.bind_eq_ok, Except.guard_eq_ok, Part.ensure_eq_ok,
      Except.pure_eq_ok]
    simp only [Tcp.Header.minimum, Nat.not_lt]
    exact ⟨_, ⟨(), by omega, hlow, (), hhigh, rfl⟩, rfl⟩
  | udp =>
    refine ⟨8, ?_⟩
    simp only [headerLength, Udp.Header.decode, Except.bind_eq_ok, Part.ensure_eq_ok, Except.pure_eq_ok]
    exact ⟨_, ⟨(), h, rfl⟩, rfl⟩

/-! ## Control messages -/

namespace Icmp

variable {family : Family} {h : Header} {c : Counterpart}

theorem isError_ipv4 {type : UInt8} : isError .ipv4 type = true ↔
    type.toNat = 3 ∨ type.toNat = 4 ∨ type.toNat = 5 ∨ type.toNat = 11 ∨ type.toNat = 12 := by
  simp [isError, ← UInt8.toNat_inj]

theorem isError_ipv6 {type : UInt8} : isError .ipv6 type = true ↔ type.toNat < 128 := by
  simp [isError, UInt8.lt_iff_toNat_lt]

/-- What goes through as a control message is an error, or an echo message that keeps its identifier and number. -/
theorem counterpart_cases (hc : counterpart family h = .ok (some c)) :
    (c.nature = .error ∧ isError family h.type = true) ∨
      ∃ e : Echo, h.type = e.type family ∧ c = .echo (e.type family.other) h.rest := by
  cases family with
  | ipv4 =>
    replace hc : toIPv6 h = .ok (some c) := hc
    unfold toIPv6 at hc
    split at hc <;> rename_i htype
    · cases hc
      exact Or.inr ⟨.request, UInt8.toNat_inj.1 htype, rfl⟩
    · cases hc
      exact Or.inr ⟨.reply, UInt8.toNat_inj.1 htype, rfl⟩
    all_goals first
      | cases hc
      | split at hc <;> cases hc <;> exact Or.inl ⟨rfl, isError_ipv4.2 (by omega)⟩
  | ipv6 =>
    replace hc : toIPv4 h = .ok (some c) := hc
    unfold toIPv4 at hc
    split at hc <;> rename_i htype
    · cases hc
      exact Or.inr ⟨.request, UInt8.toNat_inj.1 htype, rfl⟩
    · cases hc
      exact Or.inr ⟨.reply, UInt8.toNat_inj.1 htype, rfl⟩
    all_goals first
      | cases hc; exact Or.inl ⟨rfl, isError_ipv6.2 (by omega)⟩
      | cases hc
      | split at hc <;> cases hc <;> exact Or.inl ⟨rfl, isError_ipv6.2 (by omega)⟩

theorem isError_echo (family : Family) (e : Echo) : isError family (e.type family) = false := by
  cases family <;> cases e <;> rfl

/-- Errors have errors for counterparts. -/
theorem nature_of_isError (hc : counterpart family h = .ok (some c)) (herror : isError family h.type = true) :
    c.nature = .error := by
  rcases counterpart_cases hc with ⟨hnature, -⟩ | ⟨e, htype, -⟩
  · exact hnature
  · rw [htype, isError_echo] at herror
    cases herror

theorem isError_of_nature (hc : counterpart family h = .ok (some c)) (hnature : c.nature = .error) :
    isError family h.type = true := by
  rcases counterpart_cases hc with ⟨-, herror⟩ | ⟨e, -, rfl⟩
  · exact herror
  · cases hnature

theorem counterpart_echo {e : Echo} (h : Header) (htype : h.type = e.type family) :
    counterpart family h = .ok (some (.echo (e.type family.other) h.rest)) := by
  obtain ⟨type, code, checksum, rest⟩ := h
  cases htype
  cases family <;> cases e <;> rfl

end Icmp

/-! ## Admission -/

namespace Forwarding

variable {family : Family} {level : Level} {payload : Bytes} {content : Content}

theorem classify_transport (t : Transport) :
    Content.classify family level t.number payload = .ok (.transport t) := by
  have hknown : Protocol.ofNumber? t.number = some (.transport t) := Protocol.ofNumber?_number (.transport t)
  rw [Content.classify, hknown]
  rfl

/-- A control message passes if it has a counterpart; a quoted one may be no error. -/
theorem classify_icmp_eq_ok :
    Content.classify family level (Protocol.icmp family).number payload = .ok content ↔ 8 ≤ payload.length ∧
      ¬ (level = .quoted ∧ Icmp.isError family (Bytes.byteAt payload 0) = true) ∧
      ∃ c, Icmp.counterpart family (Icmp.Header.ofBytes payload) = .ok (some c) ∧
        content = .message (Icmp.Header.ofBytes payload) c := by
  rw [Content.classify, Protocol.ofNumber?_number (.icmp family)]
  simp only [Except.unless_eq_ok, Except.bind_eq_ok, liftRefusal_eq_ok, Except.guard_eq_ok, true_and,
    Icmp.Header.decode_eq_ok]
  constructor
  · rintro ⟨header, ⟨hlength, rfl⟩, hlevel, found, hfound, h⟩
    rcases found with _ | c
    · cases h
    · cases h
      exact ⟨hlength, hlevel, c, hfound, rfl⟩
  · rintro ⟨hlength, hlevel, c, hfound, rfl⟩
    exact ⟨_, ⟨hlength, rfl⟩, hlevel, some c, hfound, rfl⟩

/-- What goes through as it is is admitted at both levels. -/
theorem classify_cargo {c : Cargo} (h : c.Shows family payload) :
    Content.classify family level (c.number family) payload = .ok (c.content family payload) := by
  cases c with
  | transport t => exact classify_transport t
  | echo e =>
    obtain ⟨hlength, htype⟩ := h
    refine classify_icmp_eq_ok.2 ⟨hlength, ?_, _, Icmp.counterpart_echo _ htype, rfl⟩
    rw [htype, Icmp.isError_echo]
    simp

/-- An error that passes has an error for a counterpart. -/
theorem classify_error (h : Content.classify family .outer (Protocol.icmp family).number payload = .ok content)
    (herror : Icmp.isError family (Bytes.byteAt payload 0) = true) :
    8 ≤ payload.length ∧ ∃ c, Icmp.counterpart family (Icmp.Header.ofBytes payload) = .ok (some c) ∧ c.nature = .error ∧
      content = .message (Icmp.Header.ofBytes payload) c := by
  obtain ⟨hlength, -, c, hc, hcontent⟩ := classify_icmp_eq_ok.1 h
  exact ⟨hlength, c, hc, Icmp.nature_of_isError hc herror, hcontent⟩

/-- Nothing but what goes through as it is passes in a quotation. -/
theorem classify_quoted_eq_ok {number : UInt8} (h : Content.classify family .quoted number payload = .ok content) :
    ∃ c : Cargo, number = c.number family ∧ c.Shows family payload ∧ content = c.content family payload := by
  rcases hprotocol : Protocol.ofNumber? number with _ | t | f
  · rw [Content.classify, hprotocol] at h
    cases h
  · have hnumber : t.number = number := Protocol.number_of_ofNumber? hprotocol
    rw [← hnumber, classify_transport] at h
    cases h
    exact ⟨.transport t, hnumber.symm, trivial, rfl⟩
  · have hnumber : (Protocol.icmp f).number = number := Protocol.number_of_ofNumber? hprotocol
    by_cases hf : f = family
    · subst hf hnumber
      obtain ⟨hlength, hlevel, c, hc, rfl⟩ := classify_icmp_eq_ok.1 h
      rcases Icmp.counterpart_cases hc with ⟨-, herror⟩ | ⟨e, htype, rfl⟩
      · exact absurd ⟨rfl, herror⟩ hlevel
      · exact ⟨.echo e, rfl, ⟨hlength, htype⟩, rfl⟩
    · rw [Content.classify, hprotocol] at h
      simp only [if_neg hf] at h
      cases h

end Forwarding

end Nat64
