import Nat64.Address.Prefix
import Nat64.Assembly
import Nat64.Checksum.PseudoHeader
import Nat64.Header.IPv4
import Nat64.Header.IPv6
import Nat64.Header.Transport
import Nat64.Icmp
import Nat64.LeaseTable

/-!
# What both directions of forwarding share

A packet is first admitted or refused without a look at the leases: `Content` says what it carries. Only then are its
addresses replaced, and its message is rebuilt under the new addresses. The datagram that a control message quotes
goes the same way, at its own `Level`: it may be cut short, its hops are not counted, and it may not quote another.
-/

namespace Nat64

/-- Which datagram is being carried over. -/
inductive Level where
  | outer
  | quoted
deriving DecidableEq, Repr

/-- The hops left on the other side. -/
def Level.hops : Level → UInt8 → UInt8
  | .outer, n => n - 1
  | .quoted, n => n

/-- Why a packet is dropped in silence. -/
inductive DropReason where
  | expired
  /-- The packet is a piece of a larger one. -/
  | fragment
  /-- The protocol is not carried over. -/
  | unsupported (protocol : UInt8)
  /-- The control message has no counterpart. -/
  | filtered (family : Family) (type code : UInt8)
deriving DecidableEq, Repr

instance : ToString DropReason where
  toString
    | .expired => "TTL expired"
    | .fragment => "fragmented packet"
    | .unsupported protocol => s!"unsupported protocol {protocol.toNat}"
    | .filtered family type code => s!"{family.icmpName} type {type.toNat} code {code.toNat} not translated"

/-- Why a packet is not carried over. -/
inductive Refusal where
  /-- It is dropped on purpose. -/
  | drop (reason : DropReason)
  /-- It cannot be carried over. -/
  | fault (f : Fault)
deriving DecidableEq, Repr

/-- What becomes of a packet that is not at fault. -/
inductive Outcome where
  /-- It goes on in the other family. -/
  | forward (d : Datagram)
  /-- Its sender gets an answer in its own family. -/
  | reply (d : Datagram)
  /-- Nothing is sent. -/
  | drop (reason : DropReason)
deriving DecidableEq, Repr

/-- A step that may refuse the packet and may change the leases; changes outlast a refusal. -/
abbrev ForwardM := ExceptT Refusal (StateM LeaseTable)

namespace Forwarding

instance : MonadLift (Except Fault) (Except Refusal) where
  monadLift
    | .ok a => .ok a
    | .error f => .error (.fault f)

instance : MonadLift (Except Refusal) ForwardM where
  monadLift r := fun t => (r, t)

/-- The address leased to a host, as a step. -/
def leaseFor (now : Nat) (host : IPv6) : ForwardM IPv4 := fun t =>
  let (r, t) := t.leaseFor now host
  (r.mapError .fault, t)

/-- The host that holds an address, as a step. -/
def findHolder (now : Nat) (address : IPv4) : ForwardM IPv6 := fun t =>
  let (r, t) := t.findHolder now address
  (r.mapError .fault, t)

/-- Runs the steps on the leases; a packet dropped on purpose is no fault. -/
def settle (step : ForwardM Outcome) (t : LeaseTable) : Except Fault Outcome × LeaseTable :=
  match step t with
  | (.ok outcome, t) => (.ok outcome, t)
  | (.error (.drop reason), t) => (.ok (.drop reason), t)
  | (.error (.fault f), t) => (.error f, t)

/-! ## Contents -/

/-- What a packet carries. -/
inductive Content where
  | transport (t : Transport)
  /-- A control message and its counterpart in the other family. -/
  | message (h : Icmp.Header) (c : Icmp.Counterpart)
deriving DecidableEq, Repr

/-- The content of a packet of a family from its protocol number and its payload. -/
def Content.classify (family : Family) (level : Level) (protocol : UInt8) (payload : Bytes) :
    Except Refusal Content := do
  match Protocol.ofNumber? protocol with
  | some (.transport t) => return .transport t
  | some (.icmp f) =>
    unless f = family do throw (.drop (.unsupported protocol))
    let h ← Icmp.Header.decode payload
    if level = .quoted ∧ Icmp.isError family h.type then throw (.fault (.nestedError family h.type))
    match ← Icmp.counterpart family h with
    | some c => return .message h c
    | none => throw (.drop (.filtered family h.type h.code))
  | none => throw (.drop (.unsupported protocol))

/-- The protocol number of a content on the side of a family. -/
def Content.number (family : Family) : Content → UInt8
  | .transport t => t.number
  | .message .. => (Protocol.icmp family).number

/-! ## Messages -/

/-- The largest packet that an ICMPv6 error may be, so that it passes every link. -/
def errorLimit : Nat := minimumMtu

/-- A whole TCP or UDP message with its checksum computed anew. -/
def transportBody (t : Transport) (message : Bytes) (pseudo : Nat) : Except Fault Assembly := do
  let n ← t.headerLength message
  let header := Bytes.setWord (message.take n) t.checksumOffset 0
  let body := Assembly.ofList [⟨.transport, header⟩, ⟨.payload, message.drop n⟩]
  body.putChecksum 0 t.checksumOffset (Checksum.sendable t.number (body.checksumFrom 0 pseudo))

/-- A quoted TCP or UDP message, cut short or not, with its checksum adjusted if it is there. -/
def quotedTransportBody (t : Transport) (message : Bytes) (adjust : UInt16 → UInt16) : Assembly :=
  let n := t.visibleHeader message
  let header := message.take n
  let header :=
    if t.checksumOffset + 2 ≤ header.length then
      Bytes.setWord header t.checksumOffset (adjust (Bytes.wordAt header t.checksumOffset))
    else header
  Assembly.ofList [⟨.transport, header⟩, ⟨.payload, message.drop n⟩]

/-- A quoted echo message, cut short or not; `adjust` accounts for the pseudo-header that only ICMPv6 has. -/
def quotedEchoBody (h : Icmp.Header) (c : Icmp.Counterpart) (message : Bytes) (adjust : UInt16 → UInt16) : Assembly :=
  let checksum := adjust (Checksum.replace h.checksum h.opening (c.header 0).opening)
  Assembly.ofList [⟨.icmp, (c.header checksum).encode⟩, ⟨.payload, message.drop Icmp.Header.size⟩]

/-- The front of a control message, its checksum still zero. -/
def messageFront (c : Icmp.Counterpart) : Assembly := Assembly.ofList [⟨.icmp, (c.header 0).encode⟩]

/-- Completes a control message with its checksum. -/
def sealMessage (body : Assembly) (pseudo : Nat) : Except Fault Assembly :=
  body.putChecksum 0 2 (body.checksumFrom 0 pseudo)

end Forwarding

end Nat64
