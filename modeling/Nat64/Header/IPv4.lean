import Nat64.Checksum
import Nat64.Fault

/-!
# IPv4 headers

`IPv4.Header` is a header as it was received, options counted but not kept. `IPv4.HeaderFields` is what a header built
here is free to choose: it has no options, is not a fragment, and its checksum follows from the rest.
-/

namespace Nat64.IPv4

/-- The fields of a received header. -/
structure Header where
  /-- The size of the header with its options. -/
  headerLength : Nat
  tos : UInt8
  /-- The size of the packet as declared. -/
  totalLength : UInt16
  /-- The number that the fragments of one packet share. -/
  identification : UInt16
  dontFragment : Bool
  moreFragments : Bool
  /-- The place of a fragment, in units of eight bytes. -/
  fragmentOffset : UInt16
  ttl : UInt8
  protocol : UInt8
  checksum : UInt16
  src : IPv4
  dst : IPv4
deriving DecidableEq, Repr

namespace Header

/-- The size of a header without options. -/
def minimum : Nat := 20

/-- The fields at the fixed offsets of a header of the given length. -/
def ofBytes (headerLength : Nat) (data : Bytes) : Header :=
  let flags := (Bytes.wordAt data 6).toNat
  { headerLength
    tos := Bytes.byteAt data 1
    totalLength := Bytes.wordAt data 2
    identification := Bytes.wordAt data 4
    dontFragment := flags / 0x4000 % 2 == 1
    moreFragments := flags / 0x2000 % 2 == 1
    fragmentOffset := UInt16.ofNat (flags % 0x2000)
    ttl := Bytes.byteAt data 8
    protocol := Bytes.byteAt data 9
    checksum := Bytes.wordAt data 10
    src := IPv4.read data 12
    dst := IPv4.read data 16 }

/-- The header at the front of a packet. -/
def decode (data : Bytes) : Except Fault Header := do
  Part.ipv4Header.ensure data.length minimum
  let opening := (Bytes.byteAt data 0).toNat
  unless opening / 16 = 4 do throw (.malformed (.wrongVersion .ipv4 (opening / 16)))
  let headerLength := opening % 16 * 4
  if headerLength < minimum then throw (.malformed (.shortIPv4Header headerLength))
  Part.ipv4Options.ensure data.length headerLength
  return ofBytes headerLength data

/-- Whether the packet is a piece of a larger one. -/
def isFragment (h : Header) : Bool := h.moreFragments || h.fragmentOffset != 0

/-- The size of the payload as declared. -/
def payloadLength (h : Header) : Except Fault Nat :=
  if h.totalLength.toNat < h.headerLength then
    .error (.malformed (.totalBelowHeader h.totalLength.toNat h.headerLength))
  else .ok (h.totalLength.toNat - h.headerLength)

end Header

/-- The fields that a header built here can choose. -/
structure HeaderFields where
  tos : UInt8
  totalLength : UInt16
  identification : UInt16
  dontFragment : Bool
  ttl : UInt8
  protocol : UInt8
  src : IPv4
  dst : IPv4
deriving DecidableEq, Repr

namespace HeaderFields

/-- The header with a checksum of zero. -/
def blank (f : HeaderFields) : Bytes :=
  [0x45, f.tos] ++ Bytes.ofWord f.totalLength ++ Bytes.ofWord f.identification
    ++ [if f.dontFragment then 0x40 else 0, 0, f.ttl, f.protocol, 0, 0] ++ f.src.octets ++ f.dst.octets

/-- The twenty bytes of the header. -/
def encode (f : HeaderFields) : Bytes := Bytes.setWord f.blank 10 (Checksum.ofBytes f.blank)

@[simp] theorem length_blank (f : HeaderFields) : f.blank.length = 20 := by
  simp [blank]

@[simp] theorem length_encode (f : HeaderFields) : f.encode.length = 20 := by
  simp [encode, Bytes.length_setWord]

end HeaderFields

/-- The fields of a received header that a header built here would repeat. -/
def Header.fields (h : Header) : HeaderFields where
  tos := h.tos
  totalLength := h.totalLength
  identification := h.identification
  dontFragment := h.dontFragment
  ttl := h.ttl
  protocol := h.protocol
  src := h.src
  dst := h.dst

end Nat64.IPv4
