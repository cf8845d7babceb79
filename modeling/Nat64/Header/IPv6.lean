import Nat64.Bytes
import Nat64.Fault

/-!
# IPv6 headers

The header has a fixed size of 40 bytes; extension headers belong to the payload. `decode` and `encode` are inverse to
each other.
-/

namespace Nat64.IPv6

/-- The fields of a header. -/
structure Header where
  trafficClass : UInt8
  /-- The label that the packets of one flow share. -/
  flowLabel : BitVec 20
  /-- The size of everything behind the header, as declared. -/
  payloadLength : UInt16
  nextHeader : UInt8
  hopLimit : UInt8
  src : IPv6
  dst : IPv6
deriving DecidableEq, Repr

namespace Header

/-- The size of a header. -/
def size : Nat := 40

/-- The fields at their offsets. -/
def ofBytes (data : Bytes) : Header :=
  let opening := Bytes.toNat (Bytes.slice data 0 4)
  { trafficClass := UInt8.ofNat (opening / 0x100000)
    flowLabel := BitVec.ofNat 20 opening
    payloadLength := Bytes.wordAt data 4
    nextHeader := Bytes.byteAt data 6
    hopLimit := Bytes.byteAt data 7
    src := IPv6.read data 8
    dst := IPv6.read data 24 }

/-- The header at the front of a packet. -/
def decode (data : Bytes) : Except Fault Header := do
  Part.ipv6Header.ensure data.length size
  let version := (Bytes.byteAt data 0).toNat / 16
  unless version = 6 do throw (.malformed (.wrongVersion .ipv6 version))
  return ofBytes data

/-- The forty bytes of the header. -/
def encode (h : Header) : Bytes :=
  Bytes.ofNat 4 (0x60000000 + h.trafficClass.toNat * 0x100000 + h.flowLabel.toNat)
    ++ Bytes.ofWord h.payloadLength ++ [h.nextHeader, h.hopLimit] ++ h.src.octets ++ h.dst.octets

@[simp] theorem length_encode (h : Header) : h.encode.length = 40 := by
  simp [encode]

end Header

end Nat64.IPv6
