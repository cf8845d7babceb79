import Nat64.Bytes
import Nat64.Fault

/-!
# Headers of control messages

ICMP and ICMPv6 share a header of eight bytes: type, code, checksum, and four bytes whose use depends on the type.
-/

namespace Nat64.Icmp

/-- The header of a control message. -/
structure Header where
  type : UInt8
  code : UInt8
  checksum : UInt16
  /-- The four bytes whose use depends on the type. -/
  rest : UInt32
deriving DecidableEq, Repr

namespace Header

/-- The size of a header. -/
def size : Nat := 8

/-- The header at the front of a message. -/
def decode (data : Bytes) : Except Fault Header := do
  Part.icmpHeader.ensure data.length size
  return {
    type := Bytes.byteAt data 0
    code := Bytes.byteAt data 1
    checksum := Bytes.wordAt data 2
    rest := UInt32.ofNat (Bytes.toNat (Bytes.slice data 4 4)) }

/-- The eight bytes of the header. -/
def encode (h : Header) : Bytes :=
  [h.type, h.code] ++ Bytes.ofWord h.checksum ++ Bytes.ofNat 4 h.rest.toNat

/-- The limit that an ICMP message about a packet too large for the next link names. -/
def mtu4 (h : Header) : Nat := h.rest.toNat % 0x10000

/-- The limit that an ICMPv6 message about a packet too large for the next link names. -/
def mtu6 (h : Header) : Nat := h.rest.toNat

/-- Type and code as one word, as the checksum reads them. -/
def opening (h : Header) : UInt16 := UInt16.ofNat (h.type.toNat * 0x100 + h.code.toNat)

@[simp] theorem length_encode (h : Header) : h.encode.length = 8 := by
  simp [encode]

end Header

end Nat64.Icmp
