import Nat64.Proofs.Forwarding.Internal
import Nat64.Proofs.Machine.LeaseTable
import Nat64.Proofs.Machine.Messages

/-!
# Forwarding on the machine

In each direction one function carries over received packets and the datagrams that errors quote, at their own level; it
is handed the function for what is quoted. A quoted datagram quotes nothing, so that the function handed to it may be
one that traps.

* `Machine.translateIPv6`, `Machine.translateIPv4`: the two functions.
* `Machine.toIPv4_follows`, `Machine.toIPv6_follows`: a received packet, at any length and on every table.
-/

namespace Nat64

namespace Forwarding

variable {p : Prefix} {now : Nat}

/-! ## Quoted datagrams as outcomes -/

/-- The quoted datagram, once it is carried over. It is never answered. -/
def quotation (outcome : Outcome) : Except Refusal Assembly :=
  match outcome with
  | .forward d => .ok d.body
  | .drop reason => .error (.drop reason)
  | .reply _ => .error (.fault (.malformed .embeddedReply))

/-- The datagram that an ICMPv6 error quotes, as if it were sent to IPv4. -/
def quotedToIPv4 (p : Prefix) (now : Nat) (data : Bytes) : ForwardM Outcome := do
  let packet ← (IPv6.Packet.decode .quoted data : Except Fault IPv6.Packet)
  let content ← admit6 .quoted packet
  let (src, dst) ← resolve4 p now .quoted packet.header
  let body ← (wrap4 .quoted packet content src dst packet.payloadLength (quotedBody4 packet content src dst) :
    Except Fault Assembly)
  return .forward { body, destination := .ipv4 dst }

/-- The datagram that an ICMP error quotes, as if it were sent to IPv6. -/
def quotedToIPv6 (p : Prefix) (now : Nat) (data : Bytes) : ForwardM Outcome := do
  let (packet, content) ← admit4 .quoted data
  let (src, dst) ← resolve6 p now .quoted packet.header
  let body ← (wrap6 .quoted packet content src dst packet.payloadLength (quotedBody6 packet content src dst) :
    Except Fault Assembly)
  return .forward { body, destination := .ipv6 dst }

theorem quoteIPv4_eq (data : Bytes) :
    quoteIPv4 p now data = (do
      let outcome ← quotedToIPv4 p now data
      (quotation outcome : Except Refusal Assembly) : ForwardM Assembly) := by
  simp only [quotedToIPv4, quoteIPv4, bind_assoc]
  refine bind_congr fun packet => bind_congr fun content => bind_congr fun resolved => ?_
  simp only [pure_bind]
  exact (bind_pure _).symm

theorem quoteIPv6_eq (data : Bytes) :
    quoteIPv6 p now data = (do
      let outcome ← quotedToIPv6 p now data
      (quotation outcome : Except Refusal Assembly) : ForwardM Assembly) := by
  simp only [quotedToIPv6, quoteIPv6, bind_assoc]
  refine bind_congr fun admitted => bind_congr fun resolved => ?_
  simp only [pure_bind]
  exact (bind_pure _).symm

end Forwarding

namespace Machine

open Forwarding (Content)

/-! ## To IPv4 -/

/-- Source and destination in IPv4. -/
def resolve4 (now : Nat) (level : Level) (h : IPv6.Header) : StepM (IPv4 × IPv4) :=
  match level with
  | .outer => do return (← leaseFor now h.src, ← extract h.dst)
  | .quoted => do return (← extract h.src, ← leaseFor now h.dst)

/-- The quoted datagram, carried over by a given function. -/
def quote (inner : Bytes → StepM Outcome) (data : Bytes) : StepM Assembly := do
  Forwarding.quotation (← inner data)

/-- What follows the header of a control message, with the header in front. -/
def messageBody4 (inner : Bytes → StepM Outcome) (c : Icmp.Counterpart) (rest : Bytes) : StepM Assembly := do
  let header ← push {} ⟨.icmp, (c.header 0).encode⟩
  match c.nature with
  | .informational => push header ⟨.payload, rest⟩
  | .error => do pushAll header (← quote inner rest).segments

/-- The message of a received packet in IPv4. -/
def body4 (inner : Bytes → StepM Outcome) (packet : IPv6.Packet) (payload : Bytes) (content : Content)
    (src dst : IPv4) : StepM Assembly :=
  match content with
  | .transport t => do
    let pseudo ← pseudoSum4 src dst t.number (← castWord packet.payloadLength)
    transportBody t payload pseudo
  | .message _ c => do
    let body ← messageBody4 inner c (← behind payload Icmp.Header.size)
    sealMessage body 0

/-- The length that goes into the header in front of a message. -/
def declared (level : Level) (body : Assembly) (length : Nat) : Run Nat :=
  match level with
  | .outer => size body
  | .quoted => return length

/-- Carries an IPv6 packet over to IPv4, or answers a received one if it has no hops left. -/
def translateIPv6 (now : Nat) (inner : Bytes → StepM Outcome) (level : Level) (data : Bytes) :
    StepM Outcome := do
  let packet ← packetIPv6 level data
  let payload ← payloadIPv6 packet
  if level = .outer ∧ packet.header.hopLimit ≤ 1 then
    match ← timeExceeded? packet with
    | some answer => return .reply answer
    | none => throw (.drop .expired)
  else
    let content ← classify .ipv6 level packet.header.nextHeader payload
    let (src, dst) ← resolve4 now level packet.header
    let body ← match level with
      | .outer => body4 inner packet payload content src dst
      | .quoted => quotedBody4 packet content src dst
    let body ← wrap4 level packet content src dst (← declared level body packet.payloadLength) body
    return .forward { body, destination := .ipv4 dst }

/-- Carries a received IPv6 packet over to IPv4, and with it the datagram that it may quote. -/
def toIPv4 (now : Nat) (data : Bytes) : StepM Outcome :=
  translateIPv6 now (translateIPv6 now (fun _ => (Except.error Trap.nesting : Run Outcome)) .quoted) .outer data

section ToIPv4

variable {p : Prefix} {now : Nat} {inner : Bytes → StepM Outcome} {data rest : Bytes}

theorem resolve4_follows (p : Prefix) (now : Nat) (level : Level) (h : IPv6.Header) (t : LeaseTable) :
    Follows (resolve4 now level h) (Forwarding.resolve4 p now level h) t := by
  cases level with
  | outer => exact (leaseFor_follows now h.src t).bind fun src s _ => .run (extract_eq p h.dst) (.pure _ s)
  | quoted => exact .run (extract_eq p h.src) ((leaseFor_follows now h.dst t).bind fun dst s _ => .pure _ s)

/-- A quoted datagram is carried over whatever is handed to it: nothing that it quotes is opened. -/
theorem translateIPv6_quoted (p : Prefix) (now : Nat) (inner : Bytes → StepM Outcome) (data : Bytes) (t : LeaseTable) :
    Follows (translateIPv6 now inner .quoted data) (Forwarding.quotedToIPv4 p now data) t := by
  refine (Follows.fault (packetIPv6_agrees .quoted data) t).bind fun packet s hpacket => ?_
  refine Follows.run (payloadIPv6_eq packet) ?_
  have hnot : ¬ (Level.quoted = .outer ∧ packet.header.hopLimit ≤ 1) := fun h => nomatch h.1
  rw [if_neg hnot]
  refine (Follows.checked (classify_agrees _ _ _ _) s).bind fun content s hcontent => ?_
  refine (resolve4_follows p now .quoted packet.header s).bind fun resolved s _ => ?_
  obtain ⟨src, dst⟩ := resolved
  have hbody := Forwarding.within_quotedBody4 (Forwarding.lift_eq_ok.1 hcontent).1 src dst
  have hlength := Nat.lt_trans packet.payloadLength_lt (by decide : 0x10000 < 0x100000000)
  refine Follows.run (quotedBody4_eq packet content src dst) (Follows.run rfl ?_)
  refine (Follows.fault (wrap4_agrees packet content src dst ?_ ?_ hlength) s).bind fun _ _ _ => .pure _ _
  · exact (nomatch ·)
  · exact Nat.le_trans hbody.segments_le (by decide)

theorem quote_follows {f : ForwardM Outcome} (h : Follows (inner data) f t) :
    Follows (quote inner data) (do
      let outcome ← f
      (Forwarding.quotation outcome : Except Refusal Assembly)) t :=
  h.bind fun outcome s _ => .checked (.ofExcept (Forwarding.quotation outcome)) s

section Inner

variable (hinner : ∀ data s, Follows (inner data) (Forwarding.quotedToIPv4 p now data) s)
include hinner

/-- The header and the datagram quoted behind it take four segments. -/
theorem messageBody4_follows (c : Icmp.Counterpart) (rest : Bytes) (t : LeaseTable) :
    Follows (messageBody4 inner c rest) (Forwarding.messageBody4 p now c rest) t := by
  have hfront : push {} ⟨.icmp, (c.header 0).encode⟩ = .ok (Forwarding.messageFront c) := push_eq (by decide) _
  have hroom := (Forwarding.within_messageFront c).segments_le
  refine Follows.run hfront ?_
  unfold Forwarding.messageBody4
  rcases c.nature with _ | _
  · exact .ofRun (push_eq (Nat.lt_of_le_of_lt hroom (by decide)) _) t
  · refine Follows.bind (f := Forwarding.quoteIPv4 p now rest) ?_ fun quoted s hquoted => ?_
    · rw [Forwarding.quoteIPv4_eq]
      exact quote_follows (hinner rest t)
    · have hsegments := (Forwarding.within_quoteIPv4 hquoted).segments_le
      exact .ofRun (pushAll_eq (Nat.add_le_add hroom hsegments |>.trans (by decide))) s

theorem body4_follows (packet : IPv6.Packet) (content : Content) (src dst : IPv4) (t : LeaseTable) :
    Follows (body4 inner packet packet.payload content src dst) (Forwarding.body4 p now packet content src dst) t := by
  have hlength := packet.payloadLength_lt
  cases content with
  | transport k =>
    have hword : (UInt16.ofNat packet.payloadLength).toNat = packet.payloadLength := UInt16.toNat_ofNat_of_lt' hlength
    have hpseudo := pseudoSum4_eq src dst k.number (UInt16.ofNat packet.payloadLength)
    rw [hword] at hpseudo
    refine Follows.run (castWord_eq hlength) (Follows.run hpseudo ?_)
    exact .fault (transportBody_agrees k packet.payload (pseudoSum4_lt src dst k.number hlength)) t
  | message h c =>
    refine Follows.run (behind_eq _ _) ?_
    refine (messageBody4_follows hinner c _ t).bind fun body s _ => ?_
    exact .fault (sealMessage_agrees body (by decide)) s

end Inner

/-- A received packet on its way to IPv4, with whatever it quotes: the machine does not trap, whatever the packet and
the leases are. -/
theorem toIPv4_follows (p : Prefix) (now : Nat) (data : Bytes) (t : LeaseTable) :
    Follows (toIPv4 now data) (Forwarding.toIPv4 p now data) t := by
  have hinner := translateIPv6_quoted p now fun _ => (Except.error Trap.nesting : Run Outcome)
  refine (Follows.fault (packetIPv6_agrees .outer data) t).bind fun packet s hpacket => ?_
  have hpacket := (Forwarding.liftFault_eq_ok.1 hpacket).1
  refine Follows.run (payloadIPv6_eq packet) ?_
  simp only [true_and]
  refine Follows.ite (fun _ => ?_) fun hhops => ?_
  · refine Follows.run (timeExceeded?_eq packet) ?_
    rcases Forwarding.timeExceeded? packet with _ | answer
    · exact .throw _ s
    · exact .pure _ s
  · refine (Follows.checked (classify_agrees _ _ _ _) s).bind fun content s _ => ?_
    refine (resolve4_follows p now .outer packet.header s).bind fun resolved s _ => ?_
    obtain ⟨src, dst⟩ := resolved
    refine (body4_follows hinner packet content src dst s).bind fun body s hbody => ?_
    have hwithin := Forwarding.within_body4 hpacket hbody
    have hsize := Nat.lt_of_le_of_lt hwithin.size_le (by decide : 0x10028 < 0x100000000)
    refine Follows.run (size_eq (Nat.lt_trans hsize (by decide))) ?_
    exact (Follows.fault (wrap4_agrees packet content src dst (fun _ => hhops) hwithin.segments_le hsize) s).bind
      fun _ _ _ => .pure _ _

end ToIPv4

/-! ## To IPv6 -/

/-- Source and destination in IPv6. -/
def resolve6 (p : Prefix) (now : Nat) (level : Level) (h : IPv4.Header) : StepM (IPv6 × IPv6) :=
  match level with
  | .outer => do return (← embed p h.src, ← findHolder now h.dst)
  | .quoted => do return (← findHolder now h.src, ← embed p h.dst)

/-- What follows the header of a control message, with the header in front. -/
def messageBody6 (inner : Bytes → StepM Outcome) (c : Icmp.Counterpart) (rest : Bytes) : StepM Assembly := do
  let header ← push {} ⟨.icmp, (c.header 0).encode⟩
  match c.nature with
  | .informational => push header ⟨.payload, rest⟩
  | .error => do
    let whole ← pushAll header (← quote inner rest).segments
    shorten whole (← sub Forwarding.errorLimit IPv6.Header.size)

/-- The message of a received packet in IPv6. -/
def body6 (inner : Bytes → StepM Outcome) (packet : IPv4.Packet) (content : Content) (src dst : IPv6) :
    StepM Assembly :=
  match content with
  | .transport t => do
    let pseudo ← pseudoSum6 src dst t.number (← cast .w32 packet.payloadLength)
    transportBody t packet.payload pseudo
  | .message _ c => do
    let body ← messageBody6 inner c (← behind packet.payload Icmp.Header.size)
    let pseudo ← pseudoSum6 src dst (Protocol.icmp .ipv6).number (← cast .w32 (← size body))
    sealMessage body pseudo

/-- An IPv4 packet that may pass, and what it carries. -/
def receiveIPv4 (level : Level) (data : Bytes) : Checked Refusal (IPv4.Packet × Content) := do
  let packet ← packetIPv4 level data
  if packet.header.isFragment then throw (.drop .fragment)
  if level = .outer ∧ packet.header.ttl ≤ 1 then throw (.drop .expired)
  let content ← classify .ipv4 level packet.header.protocol packet.payload
  return (packet, content)

/-- Carries an IPv4 packet over to IPv6. -/
def translateIPv4 (p : Prefix) (now : Nat) (inner : Bytes → StepM Outcome) (level : Level) (data : Bytes) :
    StepM Outcome := do
  let (packet, content) ← receiveIPv4 level data
  let (src, dst) ← resolve6 p now level packet.header
  let body ← match level with
    | .outer => body6 inner packet content src dst
    | .quoted => quotedBody6 packet content src dst
  let body ← wrap6 level packet content src dst (← declared level body packet.payloadLength) body
  return .forward { body, destination := .ipv6 dst }

/-- Carries a received IPv4 packet over to IPv6, and with it the datagram that it may quote. -/
def toIPv6 (p : Prefix) (now : Nat) (data : Bytes) : StepM Outcome :=
  translateIPv4 p now (translateIPv4 p now (fun _ => (Except.error Trap.nesting : Run Outcome)) .quoted) .outer data

section ToIPv6

variable {p : Prefix} {now : Nat} {inner : Bytes → StepM Outcome} {data rest : Bytes}

theorem resolve6_follows (p : Prefix) (now : Nat) (level : Level) (h : IPv4.Header) (t : LeaseTable) :
    Follows (resolve6 p now level h) (Forwarding.resolve6 p now level h) t := by
  cases level with
  | outer => exact .run (embed_eq p h.src) ((findHolder_follows now h.dst t).bind fun dst s _ => .pure _ s)
  | quoted => exact (findHolder_follows now h.src t).bind fun src s _ => .run (embed_eq p h.dst) (.pure _ s)

theorem receiveIPv4_agrees (level : Level) (data : Bytes) :
    Agrees (receiveIPv4 level data) (Forwarding.admit4 level data) := by
  refine (packetIPv4_agrees level data).refusal.bind fun packet _ => ?_
  refine Agrees.ite (fun _ => .throw_bind _ _) fun _ => Agrees.ite (fun _ => .throw_bind _ _) fun _ => ?_
  exact (classify_agrees .ipv4 level packet.header.protocol packet.payload).bind fun content _ => .pure _

/-- A quoted datagram is carried over whatever is handed to it: nothing that it quotes is opened. -/
theorem translateIPv4_quoted (p : Prefix) (now : Nat) (inner : Bytes → StepM Outcome) (data : Bytes) (t : LeaseTable) :
    Follows (translateIPv4 p now inner .quoted data) (Forwarding.quotedToIPv6 p now data) t := by
  refine (Follows.checked (receiveIPv4_agrees .quoted data) t).bind fun admitted s hadm => ?_
  obtain ⟨packet, content⟩ := admitted
  obtain ⟨hpacket, -, -, hcontent⟩ := Forwarding.admit4_eq_ok.1 (Forwarding.lift_eq_ok.1 hadm).1
  refine (resolve6_follows p now .quoted packet.header s).bind fun resolved s _ => ?_
  obtain ⟨src, dst⟩ := resolved
  have hbody := Forwarding.within_quotedBody6 hcontent src dst
  refine Follows.run (quotedBody6_eq (IPv4.Packet.payloadLength_lt hpacket) content src dst) (Follows.run rfl ?_)
  refine (Follows.fault (wrap6_agrees packet content src dst ?_ ?_) s).bind fun _ _ _ => .pure _ _
  · exact (nomatch ·)
  · exact Nat.le_trans hbody.segments_le (by decide)

section Inner

variable (hinner : ∀ data s, Follows (inner data) (Forwarding.quotedToIPv6 p now data) s)
include hinner

/-- The header and the datagram quoted behind it take four segments, and what is cut off is payload. -/
theorem messageBody6_follows (c : Icmp.Counterpart) (rest : Bytes) (t : LeaseTable) :
    Follows (messageBody6 inner c rest) (Forwarding.messageBody6 p now c rest) t := by
  have hfront : push {} ⟨.icmp, (c.header 0).encode⟩ = .ok (Forwarding.messageFront c) := push_eq (by decide) _
  have hroom := (Forwarding.within_messageFront c).segments_le
  refine Follows.run hfront ?_
  unfold Forwarding.messageBody6
  rcases c.nature with _ | _
  · exact .ofRun (push_eq (Nat.lt_of_le_of_lt hroom (by decide)) _) t
  · refine Follows.bind (f := Forwarding.quoteIPv6 p now rest) ?_ fun quoted s hquoted => ?_
    · rw [Forwarding.quoteIPv6_eq]
      exact quote_follows (hinner rest t)
    · have hquoted := Forwarding.within_quoteIPv6 hquoted
      have hwhole := ((Forwarding.within_messageFront c).append hquoted).size_le
      refine Follows.run (pushAll_eq (Nat.add_le_add hroom hquoted.segments_le |>.trans (by decide))) ?_
      exact Follows.run (sub_eq (by decide)) (.ofRun (shorten_eq (Nat.lt_of_le_of_lt hwhole (by decide)) _) s)

theorem body6_follows {packet : IPv4.Packet} (hpacket : IPv4.Packet.decode .outer data = .ok packet) (content : Content)
    (src dst : IPv6) (t : LeaseTable) :
    Follows (body6 inner packet content src dst) (Forwarding.body6 p now packet content src dst) t := by
  cases content with
  | transport k =>
    have hlength := Nat.lt_trans (IPv4.Packet.payloadLength_lt hpacket) (by decide : 0x10000 < 0x100000000)
    refine Follows.run (cast_w32 hlength) (Follows.run (pseudoSum6_eq src dst k.number hlength) ?_)
    exact .fault (transportBody_agrees k packet.payload (pseudoSum6_lt src dst k.number hlength)) t
  | message h c =>
    refine Follows.run (behind_eq _ _) ?_
    refine (messageBody6_follows hinner c _ t).bind fun body s hbody => ?_
    have hlength : body.size < 0x100000000 := by
      have hsize := (Forwarding.within_messageBody6 hbody).size_le
      have hpayload := IPv4.Packet.payload_le hpacket
      have hlt := IPv4.Packet.payloadLength_lt hpacket
      rw [List.length_drop, Forwarding.errorLimit, minimumMtu, IPv6.Header.size] at hsize
      omega
    refine Follows.run (size_eq (Nat.lt_trans hlength (by decide))) (Follows.run (cast_w32 hlength) ?_)
    refine Follows.run (pseudoSum6_eq src dst _ hlength) ?_
    exact .fault (sealMessage_agrees body (pseudoSum6_lt src dst _ hlength)) s

end Inner

/-- A received packet on its way to IPv6, with whatever it quotes: the machine does not trap, whatever the packet and
the leases are. -/
theorem toIPv6_follows (p : Prefix) (now : Nat) (data : Bytes) (t : LeaseTable) :
    Follows (toIPv6 p now data) (Forwarding.toIPv6 p now data) t := by
  have hinner := translateIPv4_quoted p now fun _ => (Except.error Trap.nesting : Run Outcome)
  refine (Follows.checked (receiveIPv4_agrees .outer data) t).bind fun admitted s hadm => ?_
  obtain ⟨packet, content⟩ := admitted
  obtain ⟨hpacket, -, hhops, -⟩ := Forwarding.admit4_eq_ok.1 (Forwarding.lift_eq_ok.1 hadm).1
  refine (resolve6_follows p now .outer packet.header s).bind fun resolved s _ => ?_
  obtain ⟨src, dst⟩ := resolved
  refine (body6_follows hinner hpacket content src dst s).bind fun body s hbody => ?_
  have hwithin := Forwarding.within_body6 hpacket hbody
  refine Follows.run (size_eq (Nat.lt_of_le_of_lt hwithin.size_le (by decide))) ?_
  exact (Follows.fault (wrap6_agrees packet content src dst hhops hwithin.segments_le) s).bind fun _ _ _ => .pure _ _

end ToIPv6

end Machine

end Nat64
