import Nat64.Proofs.Forwarding.Passage
import Nat64.Proofs.Machine.Assembly

/-!
# Messages on the machine

Packets are cut out of a buffer of any length, classified, and their messages are built anew. The bounds come from the
packets themselves: what a packet declares in 16 bits bounds every sum, cast and slice that follows.

* `Machine.packetIPv6_agrees`, `Machine.packetIPv4_agrees`, `Machine.classify_agrees`: what is read.
* `Machine.transportBody_agrees`, `Machine.sealMessage_agrees`: messages of received packets.
* `Machine.quotedBody4_eq`, `Machine.quotedBody6_eq`: quoted messages, cut short or not.
* `Machine.wrap4_agrees`, `Machine.wrap6_agrees`: the headers in front.
* `Machine.timeExceeded?_eq`: the answer to a packet without hops.
-/

namespace Nat64.Machine

open Forwarding (Content)

/-! ## Views of a buffer -/

/-- At most so many bytes from the front. -/
def front (data : Bytes) (n : Nat) : Run Bytes := slice data 0 (min n data.length)

/-- What is behind a header, if there is anything. -/
def behind (data : Bytes) (n : Nat) : Run Bytes := slice data (min n data.length) data.length

theorem front_eq (data : Bytes) (n : Nat) : front data n = .ok (data.take n) := by
  rw [front, slice_front (Nat.min_le_right _ _), ← List.take_eq_take_min]

theorem behind_eq (data : Bytes) (n : Nat) : behind data n = .ok (data.drop n) := by
  rw [behind, slice_back (Nat.min_le_right _ _), ← List.drop_eq_drop_min]

/-! ## Packets -/

/-- The IPv6 packet at the front of a buffer. -/
def packetIPv6 (level : Level) (data : Bytes) : Checked Fault IPv6.Packet := do
  let header ← decodeIPv6 data
  let length := header.payloadLength.toNat
  let declared ← add .w64 IPv6.Header.size length
  if level = .outer ∧ data.length < declared then
    throw (.malformed (.beyondBuffer .ipv6 length (← sub data.length IPv6.Header.size)))
  return { header, bytes := ← front data declared }

/-- The payload of an IPv6 packet. -/
def payloadIPv6 (packet : IPv6.Packet) : Run Bytes := behind packet.bytes IPv6.Header.size

/-- The IPv4 packet at the front of a buffer. -/
def packetIPv4 (level : Level) (data : Bytes) : Checked Fault IPv4.Packet := do
  let header ← decodeIPv4 data
  let payloadLength ← header.payloadLength
  let total := header.totalLength.toNat
  if level = .outer ∧ data.length < total then throw (.malformed (.beyondBuffer .ipv4 total data.length))
  return { header, payloadLength, payload := ← behind (← front data total) header.headerLength }

theorem packetIPv6_agrees (level : Level) (data : Bytes) :
    Agrees (packetIPv6 level data) (IPv6.Packet.decode level data) := by
  refine (decodeIPv6_agrees data).bind fun header hheader => ?_
  have hlength := header.payloadLength.toNat_lt
  have hsize : 40 ≤ data.length := (IPv6.Header.decode_eq_ok.1 hheader).1
  refine Agrees.run (add_w64 (by rw [IPv6.Header.size]; omega)) (Agrees.ite (fun _ => ?_) fun _ => ?_)
  · exact Agrees.run (sub_eq hsize) (.throw_bind _ _)
  · exact Agrees.run (front_eq _ _) (.pure _)

theorem payloadIPv6_eq (packet : IPv6.Packet) : payloadIPv6 packet = .ok packet.payload := behind_eq _ _

theorem packetIPv4_agrees (level : Level) (data : Bytes) :
    Agrees (packetIPv4 level data) (IPv4.Packet.decode level data) := by
  refine (decodeIPv4_agrees data).bind fun header _ => (Agrees.ofExcept _).bind fun _ _ => ?_
  refine Agrees.ite (fun _ => .throw_bind _ _) fun _ => ?_
  exact Agrees.run (front_eq _ _) (Agrees.run (behind_eq _ _) (.pure _))

/-! ## Contents -/

/-- The counterpart of a control message. The limits of links are computed; the rest is looked up. -/
def counterpart (family : Family) (h : Icmp.Header) : Checked Fault (Option Icmp.Counterpart) :=
  if family = .ipv4 ∧ h.type = 3 ∧ h.code = 4 then do
    let mtu ← add .w32 h.mtu4 Icmp.headerGrowth
    return some (.errorWith 2 0 (UInt32.ofNat (max mtu minimumMtu)))
  else if family = .ipv6 ∧ h.type = 2 then do
    -- this difference stops at zero
    let mtu ← castWord (min (h.mtu6 - Icmp.headerGrowth) 0xffff)
    return some (.errorWith 3 4 (UInt32.ofNat mtu.toNat))
  else Icmp.counterpart family h

/-- The content of a packet of a family. -/
def classify (family : Family) (level : Level) (protocol : UInt8) (payload : Bytes) : Checked Refusal Content := do
  match Protocol.ofNumber? protocol with
  | some (.transport t) => return .transport t
  | some (.icmp f) =>
    unless f = family do throw (.drop (.unsupported protocol))
    let h ← decodeIcmp payload
    if level = .quoted ∧ Icmp.isError family h.type then throw (.fault (.nestedError family h.type))
    match ← counterpart family h with
    | some c => return .message h c
    | none => throw (.drop (.filtered family h.type h.code))
  | none => throw (.drop (.unsupported protocol))

theorem counterpart_agrees (family : Family) (h : Icmp.Header) :
    Agrees (counterpart family h) (Icmp.counterpart family h) := by
  unfold counterpart
  split
  · rename_i hlimit
    obtain ⟨type, code, checksum, rest⟩ := h
    obtain ⟨rfl, rfl, rfl⟩ := hlimit
    have hmtu : (⟨3, 4, checksum, rest⟩ : Icmp.Header).mtu4 < 0x10000 := Nat.mod_lt _ (by decide)
    exact Agrees.run (add_w32 (by rw [Icmp.headerGrowth]; omega)) (.pure _)
  · split
    · rename_i hlimit
      obtain ⟨type, code, checksum, rest⟩ := h
      obtain ⟨rfl, rfl⟩ := hlimit
      have hmtu : min ((⟨2, code, checksum, rest⟩ : Icmp.Header).mtu6 - Icmp.headerGrowth) 0xffff < 0x10000 :=
        Nat.lt_of_le_of_lt (Nat.min_le_right _ _) (by decide)
      refine Agrees.run (castWord_eq hmtu) ?_
      rw [UInt16.toNat_ofNat', Nat.mod_eq_of_lt hmtu]
      exact .pure _
    · exact .ofExcept _

theorem classify_agrees (family : Family) (level : Level) (protocol : UInt8) (payload : Bytes) :
    Agrees (classify family level protocol payload) (Content.classify family level protocol payload) := by
  unfold classify Content.classify
  rcases Protocol.ofNumber? protocol with _ | (t | f)
  · exact .throw _
  · exact .pure _
  · refine Agrees.ite (fun _ => ?_) fun _ => .throw_bind _ _
    refine (decodeIcmp_agrees payload).refusal.bind fun h _ => Agrees.ite (fun _ => .throw_bind _ _) fun _ => ?_
    refine (counterpart_agrees family h).refusal.bind fun c _ => ?_
    rcases c with _ | c
    · exact .throw _
    · exact .pure _

/-! ## Messages of received packets -/

/-- A whole TCP or UDP message with its checksum computed anew. -/
def transportBody (t : Transport) (message : Bytes) (pseudo : Nat) : Checked Fault Assembly := do
  let n ← headerLength t message
  let header ← slice message 0 n
  let header ← write header t.checksumOffset (← add .w64 t.checksumOffset 2) (Bytes.ofWord 0)
  let rest ← slice message n message.length
  let body ← pushAll {} [⟨.transport, header⟩, ⟨.payload, rest⟩]
  let checksum ← checksumFrom body 0 pseudo
  putChecksum body 0 t.checksumOffset (Checksum.sendable t.number checksum)

/-- Completes a control message with its checksum. -/
def sealMessage (body : Assembly) (pseudo : Nat) : Checked Fault Assembly := do
  putChecksum body 0 2 (← checksumFrom body 0 pseudo)

theorem add_checksumOffset (t : Transport) : add .w64 t.checksumOffset 2 = .ok (t.checksumOffset + 2) := by
  cases t
  · rfl
  · rfl

theorem checksumOffset_lt (t : Transport) : t.checksumOffset + 2 < 0x10000000000000000 := by
  cases t
  · decide
  · decide

/-- The header covers its checksum and lies inside the message. -/
theorem transportBody_agrees (t : Transport) (message : Bytes) {pseudo : Nat} (h : pseudo < 0x100000000) :
    Agrees (transportBody t message pseudo) (Forwarding.transportBody t message pseudo) := by
  refine (headerLength_agrees t message).bind fun n hn => ?_
  have hlength := (Transport.headerLength_eq_ok hn).2
  have hroom := Transport.checksum_in_header hn
  refine Agrees.run (slice_front hlength) (Agrees.run (add_checksumOffset t) ?_)
  refine Agrees.run (write_word hroom 0) (Agrees.run (slice_back hlength) ?_)
  refine Agrees.run (pushAll_pair _ _) (Agrees.run (checksumFrom_eq _ 0 h) ?_)
  exact putChecksum_agrees _ 0 (checksumOffset_lt t) _

theorem sealMessage_agrees (body : Assembly) {pseudo : Nat} (h : pseudo < 0x100000000) :
    Agrees (sealMessage body pseudo) (Forwarding.sealMessage body pseudo) :=
  Agrees.run (checksumFrom_eq body 0 h) (putChecksum_agrees body 0 (by decide) _)

/-! ## Quoted messages -/

/-- A quoted TCP or UDP message, cut short or not, with its checksum adjusted if it is there. -/
def quotedTransportBody (t : Transport) (message : Bytes) (adjust : UInt16 → Run UInt16) : Run Assembly := do
  let n ← visibleHeader t message
  let header ← slice message 0 n
  let last ← add .w64 t.checksumOffset 2
  let header ← if last ≤ header.length then do
      let old ← wordAt header t.checksumOffset
      write header t.checksumOffset last (Bytes.ofWord (← adjust old))
    else pure header
  pushAll {} [⟨.transport, header⟩, ⟨.payload, ← slice message n message.length⟩]

/-- A quoted echo message, cut short or not. -/
def quotedEchoBody (h : Icmp.Header) (c : Icmp.Counterpart) (message : Bytes) (adjust : UInt16 → Run UInt16) :
    Run Assembly := do
  let checksum ← adjust (← replace h.checksum h.opening (c.header 0).opening)
  let header ← write (c.header 0).encode 2 4 (Bytes.ofWord checksum)
  pushAll {} [⟨.icmp, header⟩, ⟨.payload, ← behind message Icmp.Header.size⟩]

/-- The message of a quoted datagram in IPv4. -/
def quotedBody4 (packet : IPv6.Packet) (content : Content) (src dst : IPv4) : Run Assembly := do
  let payload ← payloadIPv6 packet
  match content with
  | .transport t =>
    let length ← castWord packet.payloadLength
    let pseudo : Checksum.PseudoHeaders :=
      { src6 := packet.header.src, dst6 := packet.header.dst, src4 := src, dst4 := dst, protocol := t.number, length }
    quotedTransportBody t payload (adjustToIPv4 pseudo)
  | .message h c =>
    let length ← cast .w32 packet.payloadLength
    let pseudo ← pseudoSum6 packet.header.src packet.header.dst (Protocol.icmp .ipv6).number length
    let removed ← fold pseudo
    quotedEchoBody h c payload fun old => replace old removed 0

/-- The message of a quoted datagram in IPv6. -/
def quotedBody6 (packet : IPv4.Packet) (content : Content) (src dst : IPv6) : Run Assembly :=
  match content with
  | .transport t => do
    let length ← castWord packet.payloadLength
    let pseudo : Checksum.PseudoHeaders :=
      { src6 := src, dst6 := dst, src4 := packet.header.src, dst4 := packet.header.dst, protocol := t.number, length }
    quotedTransportBody t packet.payload fun old => do return (← adjustToIPv6? pseudo old).getD old
  | .message h c => do
    let length ← cast .w32 packet.payloadLength
    let pseudo ← pseudoSum6 src dst (Protocol.icmp .ipv6).number length
    let added ← fold pseudo
    quotedEchoBody h c packet.payload fun old => replace old 0 added

section Quoted

variable {adjusting : UInt16 → Run UInt16} (adjust : UInt16 → UInt16)

theorem quotedTransportBody_eq (t : Transport) (message : Bytes) (h : ∀ old, adjusting old = .ok (adjust old)) :
    quotedTransportBody t message adjusting = .ok (Forwarding.quotedTransportBody t message adjust) := by
  have hvisible : t.visibleHeader message ≤ message.length := by
    cases t
    · exact Nat.min_le_right _ _
    · exact Nat.min_le_right _ _
  have hoffset := checksumOffset_lt t
  unfold quotedTransportBody Forwarding.quotedTransportBody
  simp only [visibleHeader_eq, slice_front hvisible, add_checksumOffset, ok_bind, slice_back hvisible]
  split
  · rename_i hroom
    simp only [wordAt_eq hroom (by omega), h, write_word hroom, ok_bind]
    exact pushAll_pair _ _
  · rw [pure_bind]
    exact pushAll_pair _ _

theorem quotedEchoBody_eq (header : Icmp.Header) (c : Icmp.Counterpart) (message : Bytes)
    (h : ∀ old, adjusting old = .ok (adjust old)) :
    quotedEchoBody header c message adjusting = .ok (Forwarding.quotedEchoBody header c message adjust) := by
  have hroom := (c.header 0).checksum_in_encode
  unfold quotedEchoBody Forwarding.quotedEchoBody
  simp only [replace_eq, h, write_word hroom, Icmp.Header.setWord_encode, behind_eq, ok_bind]
  exact pushAll_pair _ _

theorem quotedBody4_eq (packet : IPv6.Packet) (content : Content) (src dst : IPv4) :
    quotedBody4 packet content src dst = .ok (Forwarding.quotedBody4 packet content src dst) := by
  have hlength : packet.payloadLength < 0x10000 := packet.header.payloadLength.toNat_lt
  have hlarge : packet.payloadLength < 0x100000000 := Nat.lt_trans hlength (by decide)
  rw [quotedBody4, payloadIPv6_eq, ok_bind]
  cases content with
  | transport t =>
    have hword : UInt16.ofNat packet.payloadLength = packet.header.payloadLength := UInt16.ofNat_toNat
    show (castWord packet.payloadLength >>= _) = _
    rw [castWord_eq hlength, ok_bind, hword]
    exact quotedTransportBody_eq _ t packet.payload (adjustToIPv4_eq _)
  | message h c =>
    show (cast .w32 packet.payloadLength >>= _) = _
    rw [cast_w32 hlarge, ok_bind, pseudoSum6_eq _ _ _ hlarge, ok_bind, fold_pseudoSum6 _ _ _ hlarge, ok_bind]
    let removed := Checksum.fold
      (Checksum.pseudoSum6 packet.header.src packet.header.dst (Protocol.icmp .ipv6).number packet.payloadLength)
    exact quotedEchoBody_eq (fun old => Checksum.replace old removed 0) h c packet.payload
      fun old => replace_eq old removed 0

theorem quotedBody6_eq {packet : IPv4.Packet} (hlength : packet.payloadLength < 0x10000) (content : Content)
    (src dst : IPv6) : quotedBody6 packet content src dst = .ok (Forwarding.quotedBody6 packet content src dst) := by
  have hlarge : packet.payloadLength < 0x100000000 := Nat.lt_trans hlength (by decide)
  cases content with
  | transport t =>
    let pseudo : Checksum.PseudoHeaders :=
      { src6 := src, dst6 := dst, src4 := packet.header.src, dst4 := packet.header.dst
        protocol := t.number, length := UInt16.ofNat packet.payloadLength }
    have hadjust : ∀ old, (do return (← adjustToIPv6? pseudo old).getD old) = .ok ((pseudo.toIPv6? old).getD old) := by
      intro old
      rw [adjustToIPv6?_eq]
      rfl
    rw [quotedBody6, castWord_eq hlength, ok_bind]
    exact quotedTransportBody_eq (fun old => (pseudo.toIPv6? old).getD old) t packet.payload hadjust
  | message h c =>
    rw [quotedBody6, cast_w32 hlarge, ok_bind, pseudoSum6_eq _ _ _ hlarge, ok_bind, fold_pseudoSum6 _ _ _ hlarge,
      ok_bind]
    let added := Checksum.fold (Checksum.pseudoSum6 src dst (Protocol.icmp .ipv6).number packet.payloadLength)
    exact quotedEchoBody_eq (fun old => Checksum.replace old 0 added) h c packet.payload
      fun old => replace_eq old 0 added

end Quoted

/-! ## Headers in front -/

/-- The hops left on the other side. -/
def hops (level : Level) (n : UInt8) : Run UInt8 :=
  match level with
  | .outer => do return UInt8.ofNat (← sub n.toNat 1)
  | .quoted => return n

/-- A packet in IPv4: its header in front of its message. -/
def wrap4 (level : Level) (packet : IPv6.Packet) (content : Content) (src dst : IPv4) (length : Nat)
    (body : Assembly) : Checked Fault Assembly := do
  let total ← add .w64 IPv4.Header.minimum length
  if 0xffff < total then throw (.malformed .oversizedIPv4)
  let ttl ← hops level packet.header.hopLimit
  let totalLength ← castWord total
  let header ← encodeIPv4 { Forwarding.header4 level packet content src dst length with ttl, totalLength }
  pushAll (← push {} ⟨.ipv4, header⟩) body.segments

/-- A packet in IPv6: its header in front of its message. -/
def wrap6 (level : Level) (packet : IPv4.Packet) (content : Content) (src dst : IPv6) (length : Nat)
    (body : Assembly) : Checked Fault Assembly := do
  if 0xffff < length then throw (.malformed .oversizedIPv6)
  let hopLimit ← hops level packet.header.ttl
  let payloadLength ← castWord length
  let header ← encodeIPv6 { Forwarding.header6 level packet content src dst length with hopLimit, payloadLength }
  pushAll (← push {} ⟨.ipv6, header⟩) body.segments

section Headers

variable {level : Level} {length : Nat} {body : Assembly}

/-- A received packet goes on only if a hop is left to be taken. -/
theorem hops_eq {n : UInt8} (h : level = .outer → ¬ n ≤ 1) : hops level n = .ok (level.hops n) := by
  cases level with
  | quoted => rfl
  | outer =>
    have hone : (1 : UInt8).toNat = 1 := rfl
    have hless := h rfl
    rw [UInt8.le_iff_toNat_le, hone] at hless
    have hsub : (n - 1).toNat = n.toNat - 1 := UInt8.toNat_sub_of_le n 1 (UInt8.le_iff_toNat_le.2 (by omega))
    rw [hops, sub_eq (by omega)]
    show Except.ok (UInt8.ofNat (n.toNat - 1)) = Except.ok (n - 1)
    rw [← hsub, UInt8.ofNat_toNat]

/-- There is room for a header and four segments. -/
theorem pushAll_behind (s : Segment) (h : body.segments.length ≤ 4) :
    pushAll (Assembly.push {} s) body.segments = .ok (Assembly.ofList [s] ++ body) := by
  have hfront := (Assembly.within_ofList [s]).segments_le
  refine pushAll_eq ?_
  show (Assembly.ofList [s]).segments.length + body.segments.length ≤ room
  rw [List.length_singleton] at hfront
  rw [room]
  omega

theorem wrap4_agrees (packet : IPv6.Packet) (content : Content) (src dst : IPv4)
    (hhops : level = .outer → ¬ packet.header.hopLimit ≤ 1) (hsegments : body.segments.length ≤ 4)
    (hlength : length < 0x100000000) :
    Agrees (wrap4 level packet content src dst length body)
      (Forwarding.wrap4 level packet content src dst length body) := by
  refine Agrees.run (add_w64 (by rw [IPv4.Header.minimum]; omega))
    (Agrees.ite (fun _ => .throw_bind _ _) fun hfits => ?_)
  refine Agrees.run (hops_eq hhops) (Agrees.run (castWord_eq (by omega)) (Agrees.run (encodeIPv4_eq _) ?_))
  exact Agrees.run (push_eq (by decide) _) (.ofRun (pushAll_behind _ hsegments))

theorem wrap6_agrees (packet : IPv4.Packet) (content : Content) (src dst : IPv6)
    (hhops : level = .outer → ¬ packet.header.ttl ≤ 1) (hsegments : body.segments.length ≤ 4) :
    Agrees (wrap6 level packet content src dst length body)
      (Forwarding.wrap6 level packet content src dst length body) := by
  refine Agrees.ite (fun _ => .throw_bind _ _) fun hfits => ?_
  refine Agrees.run (hops_eq hhops) (Agrees.run (castWord_eq (by omega)) (Agrees.run (encodeIPv6_eq _) ?_))
  exact Agrees.run (push_eq (by decide) _) (.ofRun (pushAll_behind _ hsegments))

end Headers

/-! ## Answers -/

/-- The answer to a packet without hops left. -/
def timeExceeded? (packet : IPv6.Packet) : Run (Option Datagram) := do
  if Forwarding.isUnanswerable packet then return none
  let src := packet.header.dst
  let dst := packet.header.src
  let limit ← sub (← sub Forwarding.errorLimit IPv6.Header.size) Icmp.Header.size
  let quoted ← front packet.bytes limit
  let length ← add .w64 Icmp.Header.size quoted.length
  let number := (Protocol.icmp .ipv6).number
  let pseudo ← pseudoSum6 src dst number (← cast .w32 length)
  let checksum ← checksum pseudo [(Forwarding.timeExceededHeader 0).encode, quoted]
  let header ← write (Forwarding.timeExceededHeader 0).encode 2 4 (Bytes.ofWord checksum)
  let payloadLength ← castWord length
  let outer ← encodeIPv6
    { trafficClass := 0, flowLabel := 0, payloadLength, nextHeader := number, hopLimit := Forwarding.replyHops, src,
      dst }
  let body ← pushAll {} [⟨.ipv6, outer⟩, ⟨.icmp, header⟩, ⟨.payload, quoted⟩]
  return some { body, destination := .ipv6 dst }

/-- The answer is short enough for every field, however long the packet is. -/
theorem timeExceeded?_eq (packet : IPv6.Packet) :
    timeExceeded? packet = .ok (Forwarding.timeExceeded? packet) := by
  let quoted := packet.bytes.take (Forwarding.errorLimit - IPv6.Header.size - Icmp.Header.size)
  have hquoted : quoted.length ≤ 1232 := List.length_take_le _ _
  have hlength : Icmp.Header.size + quoted.length < 0x10000 := by
    rw [Icmp.Header.size]
    omega
  have hlarge : Icmp.Header.size + quoted.length < 0x100000000 := Nat.lt_trans hlength (by decide)
  have hpseudo := pseudoSum6_lt packet.header.dst packet.header.src (Protocol.icmp .ipv6).number hlarge
  have hroom := (Forwarding.timeExceededHeader 0).checksum_in_encode
  unfold timeExceeded? Forwarding.timeExceeded?
  split
  · rfl
  · rw [sub_eq (by decide), ok_bind, sub_eq (by decide), ok_bind, front_eq, ok_bind,
      add_w64 (Nat.lt_trans hlength (by decide)), ok_bind, cast_w32 hlarge, ok_bind, pseudoSum6_eq _ _ _ hlarge,
      ok_bind, checksum_eq hpseudo, ok_bind, write_word hroom, ok_bind, castWord_eq hlength, ok_bind, encodeIPv6_eq,
      ok_bind, Icmp.Header.setWord_encode, pushAll_eq (Nat.le_of_ble_eq_true rfl)]
    rfl

end Nat64.Machine
