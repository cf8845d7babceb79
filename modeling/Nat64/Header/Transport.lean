import Nat64.Bytes
import Nat64.Fault
import Nat64.Protocol

/-!
# TCP and UDP headers

Of a transport message only its header matters here: how long it is, whom it is for, and its checksum.
-/

namespace Nat64

/-- The header of a UDP message. -/
structure Udp.Header where
  source : UInt16
  destination : UInt16
  /-- The size of the message as declared. -/
  length : UInt16
  /-- The checksum, zero if there is none. -/
  checksum : UInt16
deriving DecidableEq, Repr

/-- The size of a UDP header. -/
def Udp.Header.size : Nat := 8

/-- The header at the front of a UDP message. -/
def Udp.Header.decode (data : Bytes) : Except Fault Udp.Header := do
  Part.udpHeader.ensure data.length size
  return {
    source := Bytes.wordAt data 0
    destination := Bytes.wordAt data 2
    length := Bytes.wordAt data 4
    checksum := Bytes.wordAt data 6 }

/-- The header of a TCP message. -/
structure Tcp.Header where
  /-- The size of the header with its options. -/
  headerLength : Nat
  source : UInt16
  destination : UInt16
  checksum : UInt16
deriving DecidableEq, Repr

/-- The size of a TCP header without options. -/
def Tcp.Header.minimum : Nat := 20

/-- The size of a header as its data offset declares it. -/
def Tcp.Header.declaredLength (data : Bytes) : Nat := (Bytes.byteAt data 12).toNat / 16 * 4

/-- The header at the front of a TCP message. -/
def Tcp.Header.decode (data : Bytes) : Except Fault Tcp.Header := do
  Part.tcpHeader.ensure data.length minimum
  let headerLength := declaredLength data
  if headerLength < minimum then throw (.malformed (.shortTcpHeader headerLength))
  Part.tcpOptions.ensure data.length headerLength
  return {
    headerLength
    source := Bytes.wordAt data 0
    destination := Bytes.wordAt data 2
    checksum := Bytes.wordAt data 16 }

namespace Transport

/-- The size of the complete header at the front of a message. -/
def headerLength (t : Transport) (data : Bytes) : Except Fault Nat :=
  match t with
  | .tcp => return (← Tcp.Header.decode data).headerLength
  | .udp => do
    let _ ← Udp.Header.decode data
    return Udp.Header.size

/-- How much of the front of a message is header, when the message may be cut short anywhere. -/
def visibleHeader (t : Transport) (data : Bytes) : Nat :=
  match t with
  | .tcp => min (max (Tcp.Header.declaredLength data) Tcp.Header.minimum) data.length
  | .udp => min Udp.Header.size data.length

end Transport

end Nat64
