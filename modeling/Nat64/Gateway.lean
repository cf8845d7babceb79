import Nat64.Forwarding.ToIPv4
import Nat64.Forwarding.ToIPv6

/-!
# The gateway

Every frame is carried over to the other family, chosen by its version nibble, and what results is handed to an egress.
Whatever is wrong with one frame is counted and the next frame is handled; only a fault that leaves the egress unusable
is reported.

* `Gateway.translate`: what becomes of one packet.
* `Gateway.process`: the same, with the result sent.
* `Gateway.handle`: the same for any frame, with its fate counted in the tally.
-/

namespace Nat64

/-! ## Sending -/

/-- A way to send datagrams. Its state is all it remembers; it refuses by a fault. -/
abbrev Egress (σ : Type) := Datagram → σ → Except Fault Unit × σ

/-- What became of one packet. -/
inductive Fate where
  | sent
  /-- Nothing was to be sent. -/
  | dropped (reason : DropReason)
  /-- The packet, or the datagram made from it, was refused. -/
  | failed (f : Fault)
deriving DecidableEq, Repr

/-- Sends one datagram; a refusal that concerns only this datagram is its fate. -/
def Egress.deliver {σ : Type} (egress : Egress σ) (d : Datagram) (s : σ) : Except Fault Fate × σ :=
  match egress d s with
  | (.ok (), s) => (.ok .sent, s)
  | (.error f, s) => (if f.isPacketLevel then .ok (.failed f) else .error f, s)

/-! ## Counting -/

/-- How many frames met which fate. -/
structure Tally where
  /-- Carried over or answered, and sent. -/
  sent : Nat := 0
  /-- Not forwarded on purpose. -/
  dropped : Nat := 0
  failed : Nat := 0
  /-- Of neither family. -/
  unknown : Nat := 0
deriving DecidableEq, Repr

/-- Counts one frame. -/
def Tally.count (tally : Tally) : Fate → Tally
  | .sent => { tally with sent := tally.sent + 1 }
  | .dropped _ => { tally with dropped := tally.dropped + 1 }
  | .failed _ => { tally with failed := tally.failed + 1 }

/-- Counts one frame of neither family. -/
def Tally.countUnknown (tally : Tally) : Tally := { tally with unknown := tally.unknown + 1 }

/-! ## Frames -/

/-- The version nibble of a frame that has any bytes. -/
def Frame.version? (frame : Bytes) : Option Nat := frame.head?.map fun opening => opening.toNat / 16

/-- The family of a frame by its version nibble. -/
def Frame.family? (frame : Bytes) : Option Family :=
  match Frame.version? frame with
  | some 4 => some .ipv4
  | some 6 => some .ipv6
  | _ => none

/-! ## The gateway -/

/-- A translator at work. -/
structure Gateway where
  /-- The prefix under which IPv6 hosts see IPv4 ones. -/
  embedding : Prefix := Prefix.wellKnown
  leases : LeaseTable := {}
  tally : Tally := {}
deriving DecidableEq, Repr

namespace Gateway

/-- Carries a packet of a family over to the other. -/
def translateAs (g : Gateway) (now : Nat) (family : Family) (packet : Bytes) : Except Fault Outcome × Gateway :=
  let step := match family with
    | .ipv4 => Forwarding.toIPv6 g.embedding now packet
    | .ipv6 => Forwarding.toIPv4 g.embedding now packet
  let (r, leases) := Forwarding.settle step g.leases
  (r, { g with leases })

/-- Carries a packet of either family over to the other. -/
def translate (g : Gateway) (now : Nat) (packet : Bytes) : Except Fault Outcome × Gateway :=
  match Frame.family? packet with
  | some family => g.translateAs now family packet
  | none =>
    match Frame.version? packet with
    | some version => (.error (.malformed (.unknownVersion version)), g)
    | none => (.error (.malformed .empty), g)

/-- Carries a packet over and sends what results. Faults of the packet itself are its fate. -/
def process {σ : Type} (g : Gateway) (egress : Egress σ) (now : Nat) (packet : Bytes) (s : σ) :
    Except Fault Fate × Gateway × σ :=
  match g.translate now packet with
  | (.error f, g) => (.ok (.failed f), g, s)
  | (.ok (.drop reason), g) => (.ok (.dropped reason), g, s)
  | (.ok (.forward d), g) | (.ok (.reply d), g) =>
    let (r, s) := egress.deliver d s
    (r, g, s)

/-- Handles one received frame and counts its fate; a fault that ends the work is not counted. -/
def handle {σ : Type} (g : Gateway) (egress : Egress σ) (now : Nat) (frame : Bytes) (s : σ) :
    Except Fault Unit × Gateway × σ :=
  if (Frame.family? frame).isNone then (.ok (), { g with tally := g.tally.countUnknown }, s)
  else
    match g.process egress now frame s with
    | (.ok fate, g, s) => (.ok (), { g with tally := g.tally.count fate }, s)
    | (.error f, g, s) => (.error f, g, s)

end Gateway

end Nat64
