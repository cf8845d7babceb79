import Nat64.Forwarding.Basic

/-!
# From IPv4 to IPv6

The sender is embedded into the prefix and the packet goes to the host that holds the lease on its destination. No
lease is ever granted here.

* `Forwarding.admit4`: which packets pass, and what they carry; the leases play no part in it.
* `Forwarding.toIPv6`: a received packet.
* `Forwarding.quoteIPv6`: the datagram that a control message quotes.
-/

namespace Nat64

/-- An IPv4 packet cut to its declared length. -/
structure IPv4.Packet where
  header : IPv4.Header
  /-- The declared size of the payload. -/
  payloadLength : Nat
  /-- The payload, or what there is of it. -/
  payload : Bytes
deriving DecidableEq, Repr

/-- The packet at the front of a buffer; only a quoted one may be cut short. -/
def IPv4.Packet.decode (level : Level) (data : Bytes) : Except Fault IPv4.Packet := do
  let header ← IPv4.Header.decode data
  let payloadLength ← header.payloadLength
  let total := header.totalLength.toNat
  if level = .outer ∧ data.length < total then throw (.malformed (.beyondBuffer .ipv4 total data.length))
  return { header, payloadLength, payload := (data.take total).drop header.headerLength }

namespace Forwarding

/-- An IPv4 packet that may pass, and what it carries. -/
def admit4 (level : Level) (data : Bytes) : Except Refusal (IPv4.Packet × Content) := do
  let packet ← IPv4.Packet.decode level data
  if packet.header.isFragment then throw (.drop .fragment)
  if level = .outer ∧ packet.header.ttl ≤ 1 then throw (.drop .expired)
  let content ← Content.classify .ipv4 level packet.header.protocol packet.payload
  return (packet, content)

/-- Source and destination in IPv6. A quoted datagram went the other way, so there the source holds the lease. -/
def resolve6 (p : Prefix) (now : Nat) (level : Level) (h : IPv4.Header) : ForwardM (IPv6 × IPv6) :=
  match level with
  | .outer => return (p.embed h.src, ← findHolder now h.dst)
  | .quoted => return (← findHolder now h.src, p.embed h.dst)

/-- The header under which a packet goes on in IPv6. -/
def header6 (level : Level) (packet : IPv4.Packet) (content : Content) (src dst : IPv6) (length : Nat) :
    IPv6.Header where
  trafficClass := packet.header.tos
  flowLabel := 0
  payloadLength := UInt16.ofNat length
  nextHeader := content.number .ipv6
  hopLimit := level.hops packet.header.ttl
  src
  dst

/-- A packet in IPv6: its header in front of its message. The declared length need not be that of the message. -/
def wrap6 (level : Level) (packet : IPv4.Packet) (content : Content) (src dst : IPv6) (length : Nat)
    (body : Assembly) : Except Fault Assembly :=
  if 0xffff < length then .error (.malformed .oversizedIPv6)
  else .ok (Assembly.ofList [⟨.ipv6, (header6 level packet content src dst length).encode⟩] ++ body)

/-- The message of a quoted datagram in IPv6. -/
def quotedBody6 (packet : IPv4.Packet) (content : Content) (src dst : IPv6) : Assembly :=
  match content with
  | .transport t =>
    let pseudo : Checksum.PseudoHeaders :=
      { src6 := src, dst6 := dst, src4 := packet.header.src, dst4 := packet.header.dst
        protocol := t.number, length := UInt16.ofNat packet.payloadLength }
    quotedTransportBody t packet.payload fun old => (pseudo.toIPv6? old).getD old
  | .message h c =>
    let pseudo := Checksum.pseudoSum6 src dst (Protocol.icmp .ipv6).number packet.payloadLength
    quotedEchoBody h c packet.payload fun old => Checksum.replace old 0 (Checksum.fold pseudo)

/-- The datagram that an ICMP error quotes, in IPv6. -/
def quoteIPv6 (p : Prefix) (now : Nat) (data : Bytes) : ForwardM Assembly := do
  let (packet, content) ← admit4 .quoted data
  let (src, dst) ← resolve6 p now .quoted packet.header
  (wrap6 .quoted packet content src dst packet.payloadLength (quotedBody6 packet content src dst) :
    Except Fault Assembly)

/-- What follows the header of a control message, with the header in front. Errors are kept short enough to pass
every link. -/
def messageBody6 (p : Prefix) (now : Nat) (c : Icmp.Counterpart) (rest : Bytes) : ForwardM Assembly :=
  match c.nature with
  | .informational => return (messageFront c).push ⟨.payload, rest⟩
  | .error => do
    let quoted ← quoteIPv6 p now rest
    return (messageFront c ++ quoted).shorten (errorLimit - IPv6.Header.size)

/-- The message of a received packet in IPv6. -/
def body6 (p : Prefix) (now : Nat) (packet : IPv4.Packet) (content : Content) (src dst : IPv6) :
    ForwardM Assembly :=
  match content with
  | .transport t =>
    let pseudo := Checksum.pseudoSum6 src dst t.number packet.payloadLength
    (transportBody t packet.payload pseudo : Except Fault Assembly)
  | .message _ c => do
    let body ← messageBody6 p now c (packet.payload.drop Icmp.Header.size)
    let pseudo := Checksum.pseudoSum6 src dst (Protocol.icmp .ipv6).number body.size
    (sealMessage body pseudo : Except Fault Assembly)

/-- Carries a received IPv4 packet over to IPv6. -/
def toIPv6 (p : Prefix) (now : Nat) (data : Bytes) : ForwardM Outcome := do
  let (packet, content) ← admit4 .outer data
  let (src, dst) ← resolve6 p now .outer packet.header
  let body ← body6 p now packet content src dst
  let body ← (wrap6 .outer packet content src dst body.size body : Except Fault Assembly)
  return .forward { body, destination := .ipv6 dst }

end Forwarding

end Nat64
