import Nat64.Proofs.Assembly
import Nat64.Proofs.Checksum.Incremental
import Nat64.Proofs.Forwarding.Contents

/-!
# The messages that are built

The bytes of every message that goes on in the other family, whole or quoted, written with what came in: only the
checksum changes, and in control messages the type and the code.

* `Cargo.carried`, `Cargo.requoted`: a whole message on the other side, and a quoted one.
* `Icmp.Counterpart.message`: a control message that carries its checksum.
* `transportBody_eq_ok`, `sealMessage_eq_ok`: what is built, and that it is built.
* `body4_of_cargo`, `body6_of_cargo`, `builtOf_quotedBody4`, `builtOf_quotedBody6`: in both directions.
-/

namespace Nat64

/-- A control message with its checksum under a pseudo-header. -/
def Icmp.Counterpart.message (c : Counterpart) (pseudo rest : Bytes) : Bytes :=
  (c.header (Checksum.ofBytes (pseudo ++ ((c.header 0).encode ++ rest)))).encode ++ rest

/-- The header of an IPv6 packet in IPv4, in front of a message that is declared to have `length` bytes. -/
def IPv6.Header.inIPv4 (h : IPv6.Header) (protocol ttl : UInt8) (length : Nat) (src dst : IPv4) :
    IPv4.HeaderFields where
  tos := h.trafficClass
  totalLength := UInt16.ofNat (20 + length)
  identification := 0
  dontFragment := true
  ttl
  protocol
  src
  dst

/-- The header of an IPv4 packet in IPv6, in front of a message that is declared to have `length` bytes. -/
def IPv4.Header.inIPv6 (h : IPv4.Header) (nextHeader hopLimit : UInt8) (length : Nat) (src dst : IPv6) :
    IPv6.Header where
  trafficClass := h.tos
  flowLabel := 0
  payloadLength := UInt16.ofNat length
  nextHeader
  hopLimit
  src
  dst

namespace Cargo

/-- The pseudo-header of a whole message in IPv4; control messages have none. -/
def pseudo4 (src dst : IPv4) (length : Nat) : Cargo → Bytes
  | transport t => Checksum.pseudoHeader4 src dst t.number length
  | echo _ => []

/-- The pseudo-header of a whole message in IPv6. -/
def pseudo6 (src dst : IPv6) (length : Nat) (c : Cargo) : Bytes :=
  Checksum.pseudoHeader6 src dst (c.number .ipv6) length

/-- A whole message in a family: only its checksum is new, and the first two bytes of an echo message. -/
def carried (family : Family) (pseudo message : Bytes) : Cargo → Bytes
  | transport t => Bytes.setWord message t.checksumOffset (Checksum.recomputed t pseudo message)
  | echo e =>
    let rest := message.drop 4
    e.bytes family (Checksum.ofBytes (pseudo ++ e.bytes family 0 rest)) rest

/-- A quoted message in a family: only its checksum is new, if it is there, and the first
two bytes of an echo message. -/
def requoted (family : Family) (adjust : UInt16 → UInt16) (message : Bytes) : Cargo → Bytes
  | transport t =>
    if t.checksumOffset + 2 ≤ message.length then
      Bytes.setWord message t.checksumOffset (adjust (Bytes.wordAt message t.checksumOffset))
    else message
  | echo e =>
    let h := Icmp.Header.ofBytes message
    let opening := UInt16.ofNat ((e.type family).toNat * 0x100)
    e.bytes family (adjust (Checksum.replace h.checksum h.opening opening)) (message.drop 4)

/-- The checksum of a quoted message in IPv4, moved there from the pseudo-header that its IPv6 header stands for. -/
def adjust4 (h : IPv6.Header) (src dst : IPv4) : Cargo → UInt16 → UInt16
  | transport t =>
    let pseudo : Checksum.PseudoHeaders :=
      { src6 := h.src, dst6 := h.dst, src4 := src, dst4 := dst, protocol := t.number, length := h.payloadLength }
    pseudo.toIPv4
  | echo _ =>
    let pseudo := Checksum.pseudoSum6 h.src h.dst (Protocol.icmp .ipv6).number h.payloadLength.toNat
    fun old => Checksum.replace old (Checksum.fold pseudo) 0

/-- The checksum of a quoted message of `length` bytes in IPv6, moved there from the pseudo-header that its IPv4 header
stands for. -/
def adjust6 (h : IPv4.Header) (length : Nat) (src dst : IPv6) : Cargo → UInt16 → UInt16
  | transport t =>
    let pseudo : Checksum.PseudoHeaders :=
      { src6 := src, dst6 := dst, src4 := h.src, dst4 := h.dst, protocol := t.number, length := UInt16.ofNat length }
    fun old => (pseudo.toIPv6? old).getD old
  | echo _ =>
    let pseudo := Checksum.pseudoSum6 src dst (Protocol.icmp .ipv6).number length
    fun old => Checksum.replace old 0 (Checksum.fold pseudo)

end Cargo

/-! ## Control messages -/

namespace Icmp

theorem Counterpart.length_message (c : Counterpart) (pseudo rest : Bytes) :
    (c.message pseudo rest).length = 8 + rest.length := by
  rw [message, List.length_append, Header.length_encode]

/-- What a control message carries stands behind its own header and the one in front of it. -/
theorem Counterpart.drop_behind {front : Bytes} {n : Nat} (hfront : front.length = n) (c : Counterpart)
    (pseudo rest : Bytes) : (front ++ c.message pseudo rest).drop (n + 8) = rest := by
  rw [message, ← List.append_assoc]
  exact List.drop_left' (by rw [List.length_append, hfront, Header.length_encode])

theorem Counterpart.verifies_message {n : Nat} {pseudo : Bytes} (hpseudo : Checksum.StandsFor n pseudo)
    (c : Counterpart) (rest : Bytes) : Checksum.Verifies (pseudo ++ c.message pseudo rest) := by
  have hroom : 2 + 2 ≤ (c.header 0).encode.length := by
    rw [Header.length_encode]
    decide
  have hmessage : c.message pseudo rest
      = Bytes.setWord ((c.header 0).encode ++ rest) 2 (Checksum.ofBytes (pseudo ++ ((c.header 0).encode ++ rest))) := by
    rw [Bytes.setWord_append_left hroom, Header.setWord_encode]
    rfl
  rw [hmessage]
  refine Checksum.verifies_setWord hpseudo rfl ?_ (Header.wordAt_encode (c.header 0) rest) (hpseudo.completes _)
  rw [List.length_append]
  omega

/-- A control message in IPv6 behind a header that declares it is received as it was sent. -/
theorem Counterpart.behind_ipv6 {out : IPv6.Header} {bytes rest : Bytes} (c : Counterpart)
    (hlt : 8 + rest.length < 0x10000) (hlength : out.payloadLength = UInt16.ofNat (8 + rest.length))
    (hbytes : bytes = out.encode ++ c.message (Checksum.pseudoHeader6 out.src out.dst 58 (8 + rest.length)) rest) :
    bytes.length = 48 + rest.length ∧ out.payloadLength.toNat = bytes.length - 40 ∧
    Checksum.Verifies (Checksum.pseudoHeader6 out.src out.dst 58 (bytes.length - 40) ++ bytes.drop 40) := by
  have hsize : bytes.length = 40 + (8 + rest.length) := by
    rw [hbytes, List.length_append, IPv6.Header.length_encode, length_message]
  refine ⟨hsize.trans (by omega), ?_, ?_⟩
  · rw [hsize, Nat.add_sub_cancel_left, hlength]
    exact UInt16.toNat_ofNat'.trans (Nat.mod_eq_of_lt hlt)
  · rw [hsize, Nat.add_sub_cancel_left, hbytes, List.drop_left' (IPv6.Header.length_encode out)]
    exact c.verifies_message (Checksum.standsFor_pseudoSum6 _ _ 58 (Nat.lt_trans hlt (by decide))) rest

/-- A message whose first four bytes are written anew keeps its length. -/
theorem Echo.length_bytes {message : Bytes} (h : 4 ≤ message.length) (family : Family) (e : Echo) (checksum : UInt16) :
    (e.bytes family checksum (message.drop 4)).length = message.length := by
  simp [Echo.bytes]
  omega

/-- The header of an echo message and what follows it. -/
theorem encode_echo {message : Bytes} (hlength : 8 ≤ message.length) (family : Family) (e : Echo) (checksum : UInt16) :
    ((Counterpart.echo (e.type family) (Header.ofBytes message).rest).header checksum).encode ++ message.drop 8
      = e.bytes family checksum (message.drop 4) := by
  have hlt := Bytes.toNat_lt (Bytes.slice message 4 4)
  have hrest : Bytes.ofNat 4 (Header.ofBytes message).rest.toNat = Bytes.slice message 4 4 := by
    rw [Bytes.length_slice (by omega)] at hlt
    rw [Header.ofBytes, UInt32.toNat_ofNat', Nat.mod_eq_of_lt hlt, Bytes.ofNat_toNat_slice (by omega)]
  have htail : message.drop 4 = Bytes.slice message 4 4 ++ message.drop 8 := by
    rw [Bytes.slice, ← List.drop_drop (i := 4) (j := 4), List.take_append_drop]
  rw [Header.encode_eq, Echo.bytes, htail, ← hrest]
  simp [Counterpart.echo, Counterpart.header]

end Icmp

/-! ## Whole messages on the other side -/

namespace Cargo

variable {family family' : Family} {message : Bytes} {c : Cargo}

/-- A complete header covers its checksum. -/
theorem Complete.field {t : Transport} (h : (transport t).Complete family message) :
    t.checksumOffset + 2 ≤ message.length := by
  obtain ⟨n, hn⟩ := Transport.headerLength_of_complete h
  obtain ⟨hfield, hlength⟩ := Transport.headerLength_eq_ok hn
  omega

theorem Complete.length_carried (h : c.Complete family message) (family' : Family) (pseudo : Bytes) :
    (c.carried family' pseudo message).length = message.length := by
  cases c with
  | transport t => exact Bytes.length_setWord h.field _
  | echo e => exact Icmp.Echo.length_bytes (Nat.le_trans (by decide) h.1) family' e _

theorem Complete.carried (h : c.Complete family message) (pseudo : Bytes) :
    c.Complete family' (c.carried family' pseudo message) := by
  have hlength := h.length_carried family' pseudo
  cases c with
  | transport t =>
    cases t with
    | tcp =>
      have hsize : Tcp.Header.declaredLength ((transport .tcp).carried family' pseudo message)
          = Tcp.Header.declaredLength message := by
        rw [Tcp.Header.declaredLength, Cargo.carried, Bytes.byteAt_setWord (by decide) h.field,
          Tcp.Header.declaredLength]
      obtain ⟨hlow, hhigh⟩ := h
      exact ⟨by omega, by omega⟩
    | udp => exact Nat.le_trans h (Nat.le_of_eq hlength.symm)
  | echo e => exact ⟨Nat.le_trans h.1 (Nat.le_of_eq hlength.symm), rfl⟩

/-- Of a message that is carried over twice nothing is left of the first time. -/
theorem Complete.carried_carried {other : Family} (h : c.Complete family message) (pseudo pseudo' : Bytes) :
    c.carried family' pseudo' (c.carried other pseudo message) = c.carried family' pseudo' message := by
  cases c with
  | transport t => simp only [Cargo.carried, Bytes.setWord_setWord h.field, Checksum.recomputed_setWord h.field]
  | echo e =>
    have hrest (checksum : UInt16) : (e.bytes other checksum (message.drop 4)).drop 4 = message.drop 4 := by
      rw [Icmp.Echo.bytes, ← List.append_assoc]
      exact List.drop_left' (by simp)
    simp only [Cargo.carried, hrest]

end Cargo

/-! ## What is built -/

namespace Forwarding

variable {message front : Bytes} {pseudo : Nat}

/-- The checksum of a TCP or UDP message is computed over the whole message under the new pseudo-header. -/
theorem transportBody_eq_ok {t : Transport} {body : Assembly} (h : transportBody t message pseudo = .ok body)
    (hfront : Checksum.StandsFor pseudo front) : t.checksumOffset + 2 ≤ message.length ∧
      body.bytes = Bytes.setWord message t.checksumOffset (Checksum.recomputed t front message) := by
  obtain ⟨n, hn, hput⟩ := Except.bind_eq_ok.1 h
  obtain ⟨hfield, hlength⟩ := Transport.headerLength_eq_ok hn
  have hroom := Transport.checksum_in_header hn
  have hempty : (Assembly.ofList [⟨.transport, Bytes.setWord (message.take n) t.checksumOffset 0⟩,
      ⟨.payload, message.drop n⟩]).bytes = Bytes.setWord message t.checksumOffset 0 := by
    rw [Assembly.bytes_ofList, List.flatMap_cons, List.flatMap_singleton, ← Bytes.setWord_append_left hroom,
      List.take_append_drop]
  obtain ⟨-, hbytes⟩ := Assembly.putChecksum_eq_ok hput
  rw [Assembly.checksumFrom_eq _ hfront, hempty, Bytes.setWord_setWord (by omega)] at hbytes
  exact ⟨by omega, hbytes⟩

/-- A TCP or UDP message with a complete header is built. -/
theorem exists_transportBody {t : Transport} {n : Nat} (h : t.headerLength message = .ok n) (pseudo : Nat) :
    ∃ body, transportBody t message pseudo = .ok body := by
  have hroom := Transport.checksum_in_header h
  have hkind : Segment.Kind.transport ≠ .payload := by decide
  have hstart := Assembly.startsWith_ofList hkind (Bytes.setWord (message.take n) t.checksumOffset 0)
    [⟨.payload, message.drop n⟩]
  rw [← Bytes.length_setWord hroom 0] at hroom
  obtain ⟨body, hbody⟩ := hstart.putChecksum hroom (Checksum.sendable t.number (Assembly.checksumFrom _ 0 pseudo))
  exact ⟨body, Except.bind_eq_ok.2 ⟨n, h, hbody⟩⟩

section Message

variable {c : Icmp.Counterpart} {body whole : Assembly} {rest : Bytes}

/-- A control message is completed with the checksum of all its bytes. -/
theorem sealMessage_eq_ok (hbody : body.bytes = (c.header 0).encode ++ rest) (h : sealMessage body pseudo = .ok whole)
    (hfront : Checksum.StandsFor pseudo front) : whole.bytes = c.message front rest := by
  obtain ⟨-, hbytes⟩ := Assembly.putChecksum_eq_ok h
  have hroom := (c.header 0).checksum_in_encode
  rw [hbytes, Assembly.checksumFrom_eq _ hfront, hbody, Bytes.setWord_append_left hroom, Icmp.Header.setWord_encode]
  rfl

/-- A control message with its header in front is completed. -/
theorem exists_sealMessage (hstart : body.StartsWith [⟨.icmp, (c.header 0).encode⟩]) (pseudo : Nat) :
    ∃ whole, sealMessage body pseudo = .ok whole :=
  hstart.putChecksum (c.header 0).checksum_in_encode _

/-- A control message is built with its own header in front, its checksum still zero. -/
theorem startsWith_messageFront (c : Icmp.Counterpart) :
    (messageFront c).StartsWith [⟨.icmp, (c.header 0).encode⟩] :=
  Assembly.startsWith_ofList (by decide) _ []

theorem bytes_messageFront_push (c : Icmp.Counterpart) (rest : Bytes) :
    ((messageFront c).push ⟨.payload, rest⟩).bytes = (c.header 0).encode ++ rest := by
  rw [Assembly.bytes_push, messageFront, Assembly.bytes_ofList, List.flatMap_singleton]

theorem bytes_messageFront_append (c : Icmp.Counterpart) (quoted : Assembly) :
    (messageFront c ++ quoted).bytes = (c.header 0).encode ++ quoted.bytes :=
  Assembly.bytes_front _ quoted

end Message

/-! ## Whole messages -/

section Whole

variable {c : Cargo}

theorem body4_of_cargo (p : Prefix) (now : Nat) (t : LeaseTable) {packet : IPv6.Packet}
    (hcomplete : c.Complete .ipv6 packet.payload) (hlength : packet.payload.length = packet.payloadLength)
    (src dst : IPv4) :
    ∃ body, body4 p now packet (c.content .ipv6 packet.payload) src dst t = (.ok body, t) ∧
      body.bytes = c.carried .ipv4 (c.pseudo4 src dst packet.payload.length) packet.payload := by
  cases c with
  | transport k =>
    obtain ⟨n, hn⟩ := Transport.headerLength_of_complete hcomplete
    obtain ⟨body, hbody⟩ := exists_transportBody hn (Checksum.pseudoSum4 src dst k.number packet.payloadLength)
    have hlt : packet.payloadLength < 0x10000 := packet.header.payloadLength.toNat_lt
    refine ⟨body, liftFault_eq_ok.2 ⟨hbody, rfl⟩, ?_⟩
    rw [(transportBody_eq_ok hbody (Checksum.standsFor_pseudoSum4 src dst k.number hlt)).2, hlength]
    rfl
  | echo e =>
    obtain ⟨hsize, -⟩ := hcomplete
    let counterpart := Icmp.Counterpart.echo (e.type .ipv4) (Icmp.Header.ofBytes packet.payload).rest
    let rest := packet.payload.drop Icmp.Header.size
    obtain ⟨whole, hwhole⟩ := exists_sealMessage ((startsWith_messageFront counterpart).push ⟨.payload, rest⟩) 0
    refine ⟨whole,
      bind_eq_ok.2 ⟨_, t, messageBody4_eq_ok.2 (Or.inl ⟨rfl, rfl, rfl⟩), liftFault_eq_ok.2 ⟨hwhole, rfl⟩⟩, ?_⟩
    rw [sealMessage_eq_ok (bytes_messageFront_push counterpart rest) hwhole Checksum.standsFor_nil,
      Icmp.Counterpart.message]
    simp only [counterpart, rest, Icmp.Header.size, Icmp.encode_echo hsize]
    rfl

theorem body6_of_cargo (p : Prefix) (now : Nat) (t : LeaseTable) {packet : IPv4.Packet}
    (hcomplete : c.Complete .ipv4 packet.payload) (hlength : packet.payload.length = packet.payloadLength)
    (hlt : packet.payloadLength < 0x100000000) (src dst : IPv6) :
    ∃ body, body6 p now packet (c.content .ipv4 packet.payload) src dst t = (.ok body, t) ∧
      body.bytes = c.carried .ipv6 (c.pseudo6 src dst packet.payload.length) packet.payload := by
  cases c with
  | transport k =>
    obtain ⟨n, hn⟩ := Transport.headerLength_of_complete hcomplete
    obtain ⟨body, hbody⟩ := exists_transportBody hn (Checksum.pseudoSum6 src dst k.number packet.payloadLength)
    refine ⟨body, liftFault_eq_ok.2 ⟨hbody, rfl⟩, ?_⟩
    rw [(transportBody_eq_ok hbody (Checksum.standsFor_pseudoSum6 src dst k.number hlt)).2, hlength]
    rfl
  | echo e =>
    obtain ⟨hsize, -⟩ := hcomplete
    let counterpart := Icmp.Counterpart.echo (e.type .ipv6) (Icmp.Header.ofBytes packet.payload).rest
    let rest := packet.payload.drop Icmp.Header.size
    let body := (messageFront counterpart).push ⟨.payload, rest⟩
    let number := (Protocol.icmp .ipv6).number
    have hbytes : body.bytes = (counterpart.header 0).encode ++ rest := bytes_messageFront_push counterpart rest
    have hbody : body.size = packet.payload.length := by
      rw [← Assembly.length_bytes, hbytes, List.length_append, Icmp.Header.length_encode, List.length_drop,
        Icmp.Header.size]
      omega
    obtain ⟨whole, hwhole⟩ := exists_sealMessage ((startsWith_messageFront counterpart).push ⟨.payload, rest⟩)
      (Checksum.pseudoSum6 src dst number body.size)
    refine ⟨whole,
      bind_eq_ok.2 ⟨body, t, messageBody6_eq_ok.2 (Or.inl ⟨rfl, rfl, rfl⟩), liftFault_eq_ok.2 ⟨hwhole, rfl⟩⟩, ?_⟩
    rw [hbody] at hwhole
    rw [sealMessage_eq_ok hbytes hwhole (Checksum.standsFor_pseudoSum6 src dst number (by omega)),
      Icmp.Counterpart.message]
    simp only [counterpart, rest, Icmp.Header.size, Icmp.encode_echo hsize]
    rfl

end Whole

/-! ## Quoted messages -/

section Quoted

theorem le_visibleHeader {t : Transport} (hfield : t.checksumOffset + 2 ≤ message.length) :
    t.checksumOffset + 2 ≤ t.visibleHeader message := by
  cases t with
  | tcp =>
    simp only [Transport.checksumOffset] at hfield
    simp only [Transport.checksumOffset, Transport.visibleHeader, Tcp.Header.minimum]
    omega
  | udp => exact Nat.le_min.2 ⟨Nat.le_refl 8, hfield⟩

/-- No header is longer than its length field can say. -/
theorem visibleHeader_le (t : Transport) (message : Bytes) : t.visibleHeader message ≤ 60 := by
  have hbyte := (Bytes.byteAt message 12).toNat_lt
  cases t with
  | tcp =>
    simp only [Transport.visibleHeader, Tcp.Header.declaredLength, Tcp.Header.minimum]
    omega
  | udp =>
    simp only [Transport.visibleHeader, Udp.Header.size]
    omega

/-- A quoted message is built of a header and of payload. -/
def BuiltOf (body : Assembly) (message : Bytes) : Prop :=
  ∃ kind header rest, kind ≠ Segment.Kind.payload ∧ header.length ≤ 60 ∧
    body = Assembly.ofList [⟨kind, header⟩, ⟨.payload, rest⟩] ∧ header ++ rest = message

theorem BuiltOf.bytes_eq {body : Assembly} (h : BuiltOf body message) : body.bytes = message := by
  obtain ⟨kind, header, rest, -, -, rfl, rfl⟩ := h
  rw [Assembly.bytes_ofList, List.flatMap_cons, List.flatMap_singleton]

theorem builtOf_quotedTransportBody (family : Family) (t : Transport) (message : Bytes) (adjust : UInt16 → UInt16) :
    BuiltOf (quotedTransportBody t message adjust) ((Cargo.transport t).requoted family adjust message) := by
  have hvisible := visibleHeader_le t message
  have hshort : (message.take (t.visibleHeader message)).length ≤ 60 := by
    rw [List.length_take]
    omega
  by_cases hfield : t.checksumOffset + 2 ≤ message.length
  · have hle := le_visibleHeader hfield
    have hroom : t.checksumOffset + 2 ≤ (message.take (t.visibleHeader message)).length := by
      rw [List.length_take]
      omega
    refine ⟨.transport, _, _, by decide, ?_, rfl, ?_⟩
    · rw [if_pos hroom, Bytes.length_setWord hroom]
      exact hshort
    · rw [if_pos hroom, Bytes.wordAt_take hle, ← Bytes.setWord_append_left hroom, List.take_append_drop, Cargo.requoted,
        if_pos hfield]
  · have hroom : ¬ t.checksumOffset + 2 ≤ (message.take (t.visibleHeader message)).length := by
      rw [List.length_take]
      omega
    refine ⟨.transport, _, _, by decide, ?_, rfl, ?_⟩
    · rw [if_neg hroom]
      exact hshort
    · rw [if_neg hroom, List.take_append_drop, Cargo.requoted, if_neg hfield]

theorem builtOf_quotedEchoBody (family : Family) {e : Icmp.Echo} (h : (Cargo.echo e).Shows family.other message)
    (adjust : UInt16 → UInt16) :
    BuiltOf (quotedEchoBody (Icmp.Header.ofBytes message) (.echo (e.type family) (Icmp.Header.ofBytes message).rest)
      message adjust) ((Cargo.echo e).requoted family adjust message) := by
  let counterpart := Icmp.Counterpart.echo (e.type family) (Icmp.Header.ofBytes message).rest
  have hopening : (counterpart.header 0).opening = UInt16.ofNat ((e.type family).toNat * 0x100) := by
    have hcode : (0 : UInt8).toNat = 0 := rfl
    show UInt16.ofNat ((e.type family).toNat * 0x100 + (0 : UInt8).toNat) = _
    rw [hcode, Nat.add_zero]
  refine ⟨.icmp, _, _, by decide, ?_, rfl, ?_⟩
  · rw [Icmp.Header.length_encode]
    decide
  · rw [hopening, Icmp.Header.size, Icmp.encode_echo h.1, Cargo.requoted]

theorem builtOf_quotedBody4 {packet : IPv6.Packet} {c : Cargo} (h : c.Shows .ipv6 packet.payload) (src dst : IPv4) :
    BuiltOf (quotedBody4 packet (c.content .ipv6 packet.payload) src dst)
      (c.requoted .ipv4 (c.adjust4 packet.header src dst) packet.payload) := by
  cases c with
  | transport t =>
    exact builtOf_quotedTransportBody .ipv4 t packet.payload ((Cargo.transport t).adjust4 packet.header src dst)
  | echo e => exact builtOf_quotedEchoBody .ipv4 h ((Cargo.echo e).adjust4 packet.header src dst)

theorem builtOf_quotedBody6 {packet : IPv4.Packet} {c : Cargo} (h : c.Shows .ipv4 packet.payload) (src dst : IPv6) :
    BuiltOf (quotedBody6 packet (c.content .ipv4 packet.payload) src dst)
      (c.requoted .ipv6 (c.adjust6 packet.header packet.payloadLength src dst) packet.payload) := by
  cases c with
  | transport t =>
    let adjust := (Cargo.transport t).adjust6 packet.header packet.payloadLength src dst
    exact builtOf_quotedTransportBody .ipv6 t packet.payload adjust
  | echo e =>
    let adjust := (Cargo.echo e).adjust6 packet.header packet.payloadLength src dst
    exact builtOf_quotedEchoBody .ipv6 h adjust

end Quoted

end Forwarding

end Nat64
