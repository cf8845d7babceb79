import Nat64.Header.Icmp

/-!
# Control messages in the other family

Echo requests and replies have a counterpart that keeps everything but type and code. Errors have one that depends on
type and code, and quote a datagram that has to be carried over as well. The rest is dropped, refused or unknown.

* `Icmp.toIPv6`, `Icmp.toIPv4`: the counterpart of a header; nothing if the message has to be dropped.
* `Icmp.isError`: which types quote a datagram.
-/

namespace Nat64.Icmp

/-- Whether a message quotes the datagram it is about. -/
inductive Nature where
  /-- The body is passed on as it is. -/
  | informational
  /-- The body is the datagram that caused the message. -/
  | error
deriving DecidableEq, Repr

/-- The counterpart of a message in the other family. -/
structure Counterpart where
  /-- Whether a datagram follows. -/
  nature : Nature
  type : UInt8
  code : UInt8
  /-- The four bytes whose use depends on the type. -/
  rest : UInt32
deriving DecidableEq, Repr

namespace Counterpart

/-- An echo message with the identifier and the number of the given one. -/
def echo (type : UInt8) (rest : UInt32) : Counterpart := ⟨.informational, type, 0, rest⟩

/-- An error, with the value that goes with its type. -/
def errorWith (type code : UInt8) (rest : UInt32) : Counterpart := ⟨.error, type, code, rest⟩

/-- An error of a type that no value goes with. -/
def error (type code : UInt8) : Counterpart := errorWith type code 0

/-- The header with a given checksum. -/
def header (c : Counterpart) (checksum : UInt16) : Header := ⟨c.type, c.code, checksum, c.rest⟩

end Counterpart

/-- Whether messages of a type quote a datagram. -/
def isError : Family → UInt8 → Bool
  | .ipv4, type => type = 3 ∨ type = 4 ∨ type = 5 ∨ type = 11 ∨ type = 12
  | .ipv6, type => type < 128

/-! ## The limits of links -/

/-- The bytes by which an IPv6 header exceeds an IPv4 one. -/
def headerGrowth : Nat := 20

/-- The limit of a link in ICMPv6 for one in ICMP: room for the larger header, and no less than IPv6 allows. -/
def limitToIPv6 (mtu : Nat) : Nat := max (mtu + headerGrowth) minimumMtu

/-- The limit of a link in ICMP for one in ICMPv6: without the larger header, in 16 bits. -/
def limitToIPv4 (mtu : Nat) : Nat := min (mtu - headerGrowth) 0xffff

/-! ## The tables -/

/-- The counterpart of an ICMP message in ICMPv6. -/
def toIPv6 (h : Header) : Except Fault (Option Counterpart) :=
  match h.type.toNat with
  | 8 => .ok (some (.echo 128 h.rest))
  | 0 => .ok (some (.echo 129 h.rest))
  | 3 =>
    match h.code.toNat with
    -- the network or the host is out of reach or unknown, or not for this service
    | 0 | 1 | 5 | 6 | 7 | 8 | 11 | 12 => .ok (some (.error 1 0))
    -- forbidden by an administrator
    | 9 | 10 | 13 | 15 => .ok (some (.error 1 1))
    -- no such protocol: the pointer names the next header field
    | 2 => .ok (some (.errorWith 4 1 6))
    -- nobody listens there
    | 3 => .ok (some (.error 1 4))
    -- too large for the next link
    | 4 => .ok (some (.errorWith 2 0 (UInt32.ofNat (limitToIPv6 h.mtu4))))
    | 14 => .ok none
    | _ => .error (.unknownCode .ipv4 h.type h.code)
  | 11 =>
    match h.code.toNat with
    | 0 | 1 => .ok (some (.error 3 h.code))
    | _ => .error (.unknownCode .ipv4 h.type h.code)
  | 12 => .error (.notImplemented "ICMP parameter problem pointer translation")
  -- of one hop only, or without use in IPv6
  | 4 | 5 | 9 | 10 | 13 | 14 | 15 | 16 | 17 | 18 => .ok none
  | _ => .error (.unknownType .ipv4 h.type)

/-- The counterpart of an ICMPv6 message in ICMP. -/
def toIPv4 (h : Header) : Except Fault (Option Counterpart) :=
  match h.type.toNat with
  | 128 => .ok (some (.echo 8 h.rest))
  | 129 => .ok (some (.echo 0 h.rest))
  | 1 =>
    match h.code.toNat with
    -- out of reach
    | 0 | 2 | 3 => .ok (some (.error 3 1))
    -- forbidden by an administrator
    | 1 => .ok (some (.error 3 10))
    -- nobody listens there
    | 4 => .ok (some (.error 3 3))
    | _ => .error (.unknownCode .ipv6 h.type h.code)
  -- too large for the next link
  | 2 => .ok (some (.errorWith 3 4 (UInt32.ofNat (limitToIPv4 h.mtu6))))
  | 3 =>
    match h.code.toNat with
    | 0 | 1 => .ok (some (.error 11 h.code))
    | _ => .error (.unknownCode .ipv6 h.type h.code)
  | 4 =>
    match h.code.toNat with
    -- an unknown next header is an unknown protocol
    | 1 => .ok (some (.error 3 2))
    | 0 => .error (.notImplemented "ICMPv6 parameter problem pointer translation")
    | 2 => .ok none
    | _ => .error (.unknownCode .ipv6 h.type h.code)
  -- between neighbours on one link
  | 130 | 131 | 132 | 133 | 134 | 135 | 136 | 137 => .ok none
  | _ => .error (.unknownType .ipv6 h.type)

/-- The counterpart in the other family of a message of the given one. -/
def counterpart : Family → Header → Except Fault (Option Counterpart)
  | .ipv4 => toIPv6
  | .ipv6 => toIPv4

end Nat64.Icmp
