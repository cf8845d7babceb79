import Nat64.Forwarding.Basic

/-!
# From IPv6 to IPv4

The sender is replaced by the address it leases, now if need be, and the packet goes to the IPv4 address inside its
destination. A packet without hops left is answered instead.

* `Forwarding.admit6`: which packets pass, and what they carry; the leases play no part in it.
* `Forwarding.timeExceeded?`: the answer to a packet without hops.
* `Forwarding.toIPv4`: a received packet.
* `Forwarding.quoteIPv4`: the datagram that a control message quotes.
-/

namespace Nat64

/-- An IPv6 packet cut to its declared length. -/
structure IPv6.Packet where
  header : IPv6.Header
  /-- The packet with its header, or what there is of it. -/
  bytes : Bytes
deriving DecidableEq, Repr

namespace IPv6.Packet

/-- The payload, or what there is of it. -/
def payload (packet : Packet) : Bytes := packet.bytes.drop Header.size

/-- The declared size of the payload. -/
def payloadLength (packet : Packet) : Nat := packet.header.payloadLength.toNat

/-- The packet at the front of a buffer; only a quoted one may be cut short. -/
def decode (level : Level) (data : Bytes) : Except Fault Packet := do
  let header ← Header.decode data
  let length := header.payloadLength.toNat
  if level = .outer ∧ data.length < Header.size + length then
    throw (.malformed (.beyondBuffer .ipv6 length (data.length - Header.size)))
  return { header, bytes := data.take (Header.size + length) }

end IPv6.Packet

namespace Forwarding

/-! ## Answers -/

/-- The hops that an answer starts with. -/
def replyHops : UInt8 := 64

/-- The header of the control message about a packet without hops left. -/
def timeExceededHeader (checksum : UInt16) : Icmp.Header := ⟨3, 0, checksum, 0⟩

/-- Whether a packet may not be answered by an error: it is one itself, it has no single sender, or it went to many. -/
def isUnanswerable (packet : IPv6.Packet) : Bool :=
  let aboutError :=
    packet.header.nextHeader = (Protocol.icmp .ipv6).number ∧ packet.payload.head?.any (Icmp.isError .ipv6)
  aboutError ∨ packet.header.src.IsUnspecified ∨ packet.header.src.IsMulticast ∨ packet.header.dst.IsMulticast

/-- The answer to a packet without hops left, which quotes as much of it as passes every link. -/
def timeExceeded? (packet : IPv6.Packet) : Option Datagram :=
  if isUnanswerable packet then none
  else
    let src := packet.header.dst
    let dst := packet.header.src
    let quoted := packet.bytes.take (errorLimit - IPv6.Header.size - Icmp.Header.size)
    let length := Icmp.Header.size + quoted.length
    let number := (Protocol.icmp .ipv6).number
    let pseudo := Checksum.Accumulator.addSum {} (Checksum.pseudoSum6 src dst number length)
    let checksum := (pseudo.addSegments [(timeExceededHeader 0).encode, quoted]).checksum
    let header : IPv6.Header :=
      { trafficClass := 0, flowLabel := 0, payloadLength := UInt16.ofNat length
        nextHeader := number, hopLimit := replyHops, src, dst }
    let segments : List Segment :=
      [⟨.ipv6, header.encode⟩, ⟨.icmp, (timeExceededHeader checksum).encode⟩, ⟨.payload, quoted⟩]
    some { body := Assembly.ofList segments, destination := .ipv6 dst }

/-! ## Packets -/

/-- What an IPv6 packet carries, if it may pass. -/
def admit6 (level : Level) (packet : IPv6.Packet) : Except Refusal Content :=
  Content.classify .ipv6 level packet.header.nextHeader packet.payload

/-- Source and destination in IPv4. A quoted datagram went the other way, so there the destination holds the lease. -/
def resolve4 (p : Prefix) (now : Nat) (level : Level) (h : IPv6.Header) : ForwardM (IPv4 × IPv4) :=
  match level with
  | .outer => return (← leaseFor now h.src, p.extract h.dst)
  | .quoted => return (p.extract h.src, ← leaseFor now h.dst)

/-- The header under which a packet goes on in IPv4. -/
def header4 (level : Level) (packet : IPv6.Packet) (content : Content) (src dst : IPv4) (length : Nat) :
    IPv4.HeaderFields where
  tos := packet.header.trafficClass
  totalLength := UInt16.ofNat (IPv4.Header.minimum + length)
  identification := 0
  dontFragment := true
  ttl := level.hops packet.header.hopLimit
  protocol := content.number .ipv4
  src
  dst

/-- A packet in IPv4: its header in front of its message. The declared length need not be that of the message. -/
def wrap4 (level : Level) (packet : IPv6.Packet) (content : Content) (src dst : IPv4) (length : Nat)
    (body : Assembly) : Except Fault Assembly :=
  if 0xffff < IPv4.Header.minimum + length then .error (.malformed .oversizedIPv4)
  else .ok (Assembly.ofList [⟨.ipv4, (header4 level packet content src dst length).encode⟩] ++ body)

/-- The message of a quoted datagram in IPv4. -/
def quotedBody4 (packet : IPv6.Packet) (content : Content) (src dst : IPv4) : Assembly :=
  match content with
  | .transport t =>
    let pseudo : Checksum.PseudoHeaders :=
      { src6 := packet.header.src, dst6 := packet.header.dst, src4 := src, dst4 := dst
        protocol := t.number, length := packet.header.payloadLength }
    quotedTransportBody t packet.payload pseudo.toIPv4
  | .message h c =>
    let number := (Protocol.icmp .ipv6).number
    let pseudo := Checksum.pseudoSum6 packet.header.src packet.header.dst number packet.payloadLength
    quotedEchoBody h c packet.payload fun old => Checksum.replace old (Checksum.fold pseudo) 0

/-- The datagram that an ICMPv6 error quotes, in IPv4. -/
def quoteIPv4 (p : Prefix) (now : Nat) (data : Bytes) : ForwardM Assembly := do
  let packet ← (IPv6.Packet.decode .quoted data : Except Fault IPv6.Packet)
  let content ← admit6 .quoted packet
  let (src, dst) ← resolve4 p now .quoted packet.header
  (wrap4 .quoted packet content src dst packet.payloadLength (quotedBody4 packet content src dst) :
    Except Fault Assembly)

/-- What follows the header of a control message, with the header in front. -/
def messageBody4 (p : Prefix) (now : Nat) (c : Icmp.Counterpart) (rest : Bytes) : ForwardM Assembly :=
  match c.nature with
  | .informational => return (messageFront c).push ⟨.payload, rest⟩
  | .error => return messageFront c ++ (← quoteIPv4 p now rest)

/-- The message of a received packet in IPv4. -/
def body4 (p : Prefix) (now : Nat) (packet : IPv6.Packet) (content : Content) (src dst : IPv4) :
    ForwardM Assembly :=
  match content with
  | .transport t =>
    let pseudo := Checksum.pseudoSum4 src dst t.number packet.payloadLength
    (transportBody t packet.payload pseudo : Except Fault Assembly)
  | .message _ c => do
    let body ← messageBody4 p now c (packet.payload.drop Icmp.Header.size)
    (sealMessage body 0 : Except Fault Assembly)

/-- Carries a received IPv6 packet over to IPv4, or answers it if it has no hops left. -/
def toIPv4 (p : Prefix) (now : Nat) (data : Bytes) : ForwardM Outcome := do
  let packet ← (IPv6.Packet.decode .outer data : Except Fault IPv6.Packet)
  if packet.header.hopLimit ≤ 1 then
    match timeExceeded? packet with
    | some answer => return .reply answer
    | none => throw (.drop .expired)
  else
    let content ← admit6 .outer packet
    let (src, dst) ← resolve4 p now .outer packet.header
    let body ← body4 p now packet content src dst
    let body ← (wrap4 .outer packet content src dst body.size body : Except Fault Assembly)
    return .forward { body, destination := .ipv4 dst }

end Forwarding

end Nat64
