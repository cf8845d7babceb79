import Nat64.Address

/-!
# Faults

Everything that can go wrong, as a type of causes. The wording stands in `message` only.

* `Fault.message`: the text of a fault, `Fault.causes`: the texts of what lies behind it.
* `Fault.IsPacketLevel`: the fault concerns one packet, and the next one may fare better.
-/

namespace Nat64

/-! ## Malformed packets -/

/-- The parts of a packet that a buffer may be too short for. -/
inductive Part where
  | ipv4Header
  | ipv4Options
  | ipv6Header
  | icmpHeader
  | udpHeader
  | tcpHeader
  | tcpOptions
deriving DecidableEq, Repr

instance : ToString Part where
  toString
    | .ipv4Header => "IPv4 header"
    | .ipv4Options => "IPv4 options"
    | .ipv6Header => "IPv6 header"
    | .icmpHeader => "ICMP header"
    | .udpHeader => "UDP header"
    | .tcpHeader => "TCP header"
    | .tcpOptions => "TCP options"

/-- What is wrong with the bytes of a packet. -/
inductive Malformation where
  | empty
  | unknownVersion (version : Nat)
  | wrongVersion (expected : Family) (version : Nat)
  /-- The buffer ends inside a part of the packet. -/
  | truncated (part : Part) (size needed : Nat)
  /-- The header length field counts less than the fixed fields. -/
  | shortIPv4Header (length : Nat)
  /-- The data offset counts less than the fixed fields. -/
  | shortTcpHeader (length : Nat)
  /-- The total length does not even cover the header. -/
  | totalBelowHeader (total header : Nat)
  /-- The declared length exceeds what was received. -/
  | beyondBuffer (family : Family) (declared received : Nat)
  /-- The segment is missing, not writable or too short for a checksum at the offset. -/
  | noChecksumField (segment : Nat)
  /-- The result would need a total length of more than 16 bits. -/
  | oversizedIPv4
  /-- The result would need a payload length of more than 16 bits. -/
  | oversizedIPv6
  /-- A complaint in the words of someone outside this library. -/
  | other (text : String)
deriving DecidableEq, Repr

instance : ToString Malformation where
  toString
    | .empty => "Empty packet"
    | .unknownVersion version => s!"Unknown IP version {version}"
    | .wrongVersion expected version =>
      let name := expected.name
      s!"Not an {name} packet: version {version}"
    | .truncated part size needed => s!"{part} truncated: {size} bytes, need {needed}"
    | .shortIPv4Header length => s!"IPv4 header length {length} below minimum"
    | .shortTcpHeader length => s!"TCP data offset {length} below minimum"
    | .totalBelowHeader total header => s!"IPv4 total length {total} smaller than header length {header}"
    | .beyondBuffer .ipv4 declared received => s!"IPv4 total length {declared} exceeds {received} received bytes"
    | .beyondBuffer .ipv6 declared received => s!"IPv6 payload length {declared} exceeds {received} received bytes"
    | .noChecksumField segment => s!"No writable checksum in segment {segment}"
    | .oversizedIPv4 => "Translated IPv4 packet exceeds 65535 bytes"
    | .oversizedIPv6 => "Translated IPv6 payload too large"
    | .other text => text

/-! ## Configuration and devices -/

/-- What is wrong with a configuration. -/
inductive Misconfiguration where
  /-- The text is not a configuration. -/
  | invalidText
  | unreadable (path : String)
  /-- The file can be read but does not hold a configuration. -/
  | unparsable (path : String)
  | unnamedDevice
  /-- The link does not carry packets as large as every IPv6 link must. -/
  | smallMtu (mtu : Nat)
  | noPool
  /-- Leases would expire at once. -/
  | noExpiry
  /-- The address to keep back belongs to no network of the pool. -/
  | strayReserved (address : IPv4)
  | emptyRange (first last : IPv4)
  /-- Raw sockets of the family are not available. -/
  | noRawSocket (family : Family)
  | other (text : String)
deriving DecidableEq, Repr

/-- The least number of bytes in a packet that every IPv6 link carries. -/
def minimumMtu : Nat := 1280

instance : ToString Misconfiguration where
  toString
    | .invalidText => "Invalid TOML"
    | .unreadable path => s!"Failed to read config file: {path}"
    | .unparsable path => s!"Failed to parse config file: {path}"
    | .unnamedDevice => "tun_name must not be empty"
    | .smallMtu mtu => s!"MTU {mtu} is out of range. Valid range: {minimumMtu}-65535"
    | .noPool => "pool must contain at least one network"
    | .noExpiry => "binding_expiry_secs must be positive"
    | .strayReserved address => s!"Reserved address {address} is not inside any pool network"
    | .emptyRange first last => s!"Pool range {first}-{last} is empty"
    | .noRawSocket .ipv4 => "Failed to open raw AF_INET socket"
    | .noRawSocket .ipv6 => "Failed to open raw AF_INET6 socket"
    | .other text => text

/-- What is wrong with the device or its routes. -/
inductive DeviceTrouble where
  /-- The command that manages routes cannot be run. -/
  | noCommand (program : String)
  /-- The command refused to add a route. -/
  | routeRefused (label route complaint : String)
  | other (text : String)
deriving DecidableEq, Repr

instance : ToString DeviceTrouble where
  toString
    | .noCommand program => s!"Failed to execute {program}"
    | .routeRefused label route complaint => s!"Failed to add {label} {route}: {complaint}"
    | .other text => text

/-! ## Input and output -/

/-- The kinds of input and output failure that matter here. -/
inductive IoKind where
  | networkUnreachable
  | hostUnreachable
  | permissionDenied
  | other
deriving DecidableEq, Repr

/-- A failure of input or output. -/
inductive IoFailure where
  /-- Reported by the system, by its number on Linux. -/
  | system (number : Nat)
  /-- Reported by a library. -/
  | reported (kind : IoKind) (text : String)
deriving DecidableEq, Repr

namespace IoFailure

/-- The kind of a failure. -/
def kind : IoFailure → IoKind
  | system 1 => .permissionDenied
  | system 13 => .permissionDenied
  | system 101 => .networkUnreachable
  | system 113 => .hostUnreachable
  | system _ => .other
  | reported kind _ => kind

/-- The numbers with which the system rejects one datagram only: too big, network or host unreachable, no buffers. -/
def datagramNumbers : List Nat := [90, 101, 105, 113]

/-- Whether the failure rejects one datagram and leaves the socket usable. -/
def isDatagramLevel (failure : IoFailure) : Bool :=
  let bySystem := match failure with
    | system number => datagramNumbers.contains number
    | reported .. => false
  bySystem || failure.kind != .other

instance : ToString IoFailure where
  toString
    | system number => s!"os error {number}"
    | reported _ text => text

end IoFailure

/-! ## Faults -/

/-- Why an operation failed. -/
inductive Fault where
  /-- The packet is truncated or inconsistent. -/
  | malformed (what : Malformation)
  /-- There is no rule for this type of control message. -/
  | unknownType (family : Family) (type : UInt8)
  /-- There is no rule for this code, although there are rules for its type. -/
  | unknownCode (family : Family) (type code : UInt8)
  /-- A rule exists but is deliberately left out. -/
  | notImplemented (feature : String)
  /-- A control message about an error quotes another one. -/
  | nestedError (family : Family) (type : UInt8)
  /-- Only prefixes of 96 bits are supported. -/
  | prefixLength (length : UInt8)
  /-- No address is left to lease to a new host. -/
  | poolExhausted (host : IPv6)
  /-- No host holds a lease on the address. -/
  | noLease (address : IPv4)
  /-- The range overlaps one configured before. -/
  | rangeCollision (first last : IPv4)
  /-- The configuration is unusable. -/
  | config (what : Misconfiguration) (source : Option IoFailure)
  /-- The device or its routes cannot be set up. -/
  | device (what : DeviceTrouble) (source : Option IoFailure)
  /-- Only part of a datagram was accepted. -/
  | shortSend (destination : Address) (sent expected : Nat)
  /-- A device or socket failed. -/
  | io (failure : IoFailure)
deriving DecidableEq, Repr

namespace Fault

/-- The text of a fault. -/
def message : Fault → String
  | malformed what => s!"Malformed packet: {what}"
  | unknownType family type => s!"Unknown {family.icmpName} type {type.toNat}"
  | unknownCode family type code => s!"Unknown {family.icmpName} code {code.toNat} for type {type.toNat}"
  | notImplemented feature => s!"Not implemented: {feature}"
  | nestedError family type =>
    "ICMP error embeds another ICMP error (" ++ family.icmpName ++ s!" type {type.toNat})"
  | prefixLength length => s!"Unsupported NAT64 prefix length /{length.toNat} (only /96 is supported)"
  | poolExhausted host => s!"IPv4 address pool exhausted while binding {host}"
  | noLease address => s!"No binding for {address}"
  | rangeCollision first last => s!"Address range {first}-{last} overlaps a configured pool range"
  | config what _ => s!"Configuration error: {what}"
  | device what _ => s!"TUN device error: {what}"
  | shortSend destination sent expected => s!"Short send to {destination}: {sent} of {expected} bytes"
  | io failure => s!"I/O error: {failure}"

/-- The texts of what lies behind a fault, outermost first. -/
def causes : Fault → List String
  | config what source => toString what :: source.toList.map toString
  | device what source => toString what :: source.toList.map toString
  | io failure => [toString failure]
  | _ => []

/-- Whether the fault concerns one packet only, so that the next may be handled. -/
def isPacketLevel : Fault → Bool
  | rangeCollision .. => false
  | config .. => false
  | device .. => false
  | io failure => failure.isDatagramLevel
  | _ => true

end Fault

/-- Fails unless a part of a packet is all there. -/
def Part.ensure (part : Part) (size needed : Nat) : Except Fault Unit :=
  if size < needed then .error (.malformed (.truncated part size needed)) else .ok ()

end Nat64
