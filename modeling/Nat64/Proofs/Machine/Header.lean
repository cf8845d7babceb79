import Nat64.Proofs.Header
import Nat64.Proofs.Machine.Checksum
import Nat64.Proofs.Prefix

/-!
# Headers on the machine

A header is read from a slice that its own length field cut, so every field has to lie inside that slice; a header is
written into a buffer of zeros.

* `Machine.decodeIPv4_agrees`, `Machine.decodeIPv6_agrees`, `Machine.decodeIcmp_agrees`,
  `Machine.headerLength_agrees`: reading, from a buffer of any length.
* `Machine.embed_eq`, `Machine.extract_eq`: addresses of one family inside the other.
* `Machine.encodeIPv4_eq`, `Machine.encodeIPv6_eq`: writing.
-/

namespace Nat64.Machine

/-! ## Addresses -/

/-- The IPv4 address at an index, byte by byte. -/
def readIPv4 (data : Bytes) (i : Nat) : Run IPv4 := do
  let a ← byteAt data i
  let b ← byteAt data (i + 1)
  let c ← byteAt data (i + 2)
  let d ← byteAt data (i + 3)
  return IPv4.ofOctets [a, b, c, d]

/-- The IPv6 address at an index, as a slice of its size. -/
def readIPv6 (data : Bytes) (i : Nat) : Run IPv6 := do
  let octets ← slice data i (i + 16)
  return IPv6.ofOctets (← write (List.replicate 16 0) 0 16 octets)

theorem readIPv4_eq {data : Bytes} {i : Nat} (h : i + 4 ≤ data.length) : readIPv4 data i = .ok (IPv4.read data i) := by
  rw [readIPv4, byteAt_eq (by omega), ok_bind, byteAt_eq (by omega), ok_bind, byteAt_eq (by omega), ok_bind,
    byteAt_eq (by omega), ok_bind, IPv4.read, Bytes.slice_four h]
  rfl

theorem readIPv6_eq {data : Bytes} {i : Nat} (h : i + 16 ≤ data.length) : readIPv6 data i = .ok (IPv6.read data i) := by
  have hlength : (Bytes.slice data i 16).length = 16 := Bytes.length_slice h
  have hwrite : write (List.replicate 16 0) 0 16 (Bytes.slice data i 16) = .ok (Bytes.slice data i 16) := by
    rw [write_eq (by omega) (by simp)]
    simp
  rw [readIPv6, slice_eq (by omega) h, Nat.add_sub_cancel_left, ok_bind, hwrite]
  rfl

/-- The address that stands for an IPv4 address: its octets in place of the last four of the prefix. -/
def embed (p : Prefix) (a : IPv4) : Run IPv6 := do
  return IPv6.ofOctets (← write p.address.octets 12 16 a.octets)

/-- The IPv4 address that an address stands for: its last four octets. -/
def extract (a : IPv6) : Run IPv4 := readIPv4 a.octets 12

theorem embed_eq (p : Prefix) (a : IPv4) : embed p a = .ok (p.embed a) := by
  have hmem : p.address ∈ p := p.embed_mem _
  have hwrite : write p.address.octets 12 16 a.octets = .ok (p.embed a).octets := by
    rw [write_eq (by rw [a.length_octets]) (Nat.le_of_eq p.address.length_octets.symm), Prefix.octets_embed hmem,
      List.drop_eq_nil_of_le (by simp), List.append_nil]
  rw [embed, hwrite]
  exact congrArg Except.ok (IPv6.ofOctets_octets _)

theorem extract_eq (p : Prefix) (a : IPv6) : extract a = .ok (p.extract a) := by
  have hback : Bytes.slice a.octets 12 4 = (p.extract a).octets := by
    rw [p.octets_extract, Bytes.slice, List.take_of_length_le (by simp)]
  rw [extract, readIPv4_eq (Nat.le_of_eq a.length_octets.symm), IPv4.read, hback, IPv4.ofOctets_octets]

/-! ## Reading headers -/

/-- The fields of an IPv4 header, given the bytes that it covers. -/
def fieldsIPv4 (header : Bytes) : Run IPv4.Header := do
  let flags ← byteAt header 6
  let offset ← wordAt header 6
  return {
    headerLength := header.length
    tos := ← byteAt header 1
    totalLength := ← wordAt header 2
    identification := ← wordAt header 4
    dontFragment := flags.toNat / 0x40 % 2 == 1
    moreFragments := flags.toNat / 0x20 % 2 == 1
    fragmentOffset := UInt16.ofNat (offset.toNat % 0x2000)
    ttl := ← byteAt header 8
    protocol := ← byteAt header 9
    checksum := ← wordAt header 10
    src := ← readIPv4 header 12
    dst := ← readIPv4 header 16 }

/-- The IPv4 header at the front of a packet. -/
def decodeIPv4 (data : Bytes) : Checked Fault IPv4.Header := do
  Part.ipv4Header.ensure data.length IPv4.Header.minimum
  let opening := (← byteAt data 0).toNat
  unless opening / 16 = 4 do throw (.malformed (.wrongVersion .ipv4 (opening / 16)))
  let headerLength ← mul .w64 (opening % 16) 4
  if headerLength < IPv4.Header.minimum then throw (.malformed (.shortIPv4Header headerLength))
  Part.ipv4Options.ensure data.length headerLength
  fieldsIPv4 (← slice data 0 headerLength)

/-- The fields of an IPv6 header, given the bytes that it covers. -/
def fieldsIPv6 (header : Bytes) : Run IPv6.Header := do
  let first ← byteAt header 0
  let second ← byteAt header 1
  let third ← byteAt header 2
  let fourth ← byteAt header 3
  return {
    trafficClass := UInt8.ofNat (first.toNat * 16 % 0x100 + second.toNat / 16)
    flowLabel := BitVec.ofNat 20 (second.toNat % 16 * 0x10000 + third.toNat * 0x100 + fourth.toNat)
    payloadLength := ← wordAt header 4
    nextHeader := ← byteAt header 6
    hopLimit := ← byteAt header 7
    src := ← readIPv6 header 8
    dst := ← readIPv6 header 24 }

/-- The IPv6 header at the front of a packet. -/
def decodeIPv6 (data : Bytes) : Checked Fault IPv6.Header := do
  Part.ipv6Header.ensure data.length IPv6.Header.size
  let version := (← byteAt data 0).toNat / 16
  unless version = 6 do throw (.malformed (.wrongVersion .ipv6 version))
  fieldsIPv6 (← slice data 0 IPv6.Header.size)

/-- The fields of the header of a control message, given the bytes that it covers. -/
def fieldsIcmp (header : Bytes) : Run Icmp.Header := do
  let a ← byteAt header 4
  let b ← byteAt header 5
  let c ← byteAt header 6
  let d ← byteAt header 7
  return {
    type := ← byteAt header 0
    code := ← byteAt header 1
    checksum := ← wordAt header 2
    rest := UInt32.ofNat ((a.toNat * 0x100 + b.toNat) * 0x10000 + (c.toNat * 0x100 + d.toNat)) }

/-- The header at the front of a control message. -/
def decodeIcmp (data : Bytes) : Checked Fault Icmp.Header := do
  Part.icmpHeader.ensure data.length Icmp.Header.size
  fieldsIcmp (← slice data 0 Icmp.Header.size)

/-- The header at the front of a UDP message. -/
def decodeUdp (data : Bytes) : Checked Fault Udp.Header := do
  Part.udpHeader.ensure data.length Udp.Header.size
  let header ← slice data 0 Udp.Header.size
  return {
    source := ← wordAt header 0
    destination := ← wordAt header 2
    length := ← wordAt header 4
    checksum := ← wordAt header 6 }

/-- The header at the front of a TCP message. -/
def decodeTcp (data : Bytes) : Checked Fault Tcp.Header := do
  Part.tcpHeader.ensure data.length Tcp.Header.minimum
  let headerLength ← mul .w64 ((← byteAt data 12).toNat / 16) 4
  if headerLength < Tcp.Header.minimum then throw (.malformed (.shortTcpHeader headerLength))
  Part.tcpOptions.ensure data.length headerLength
  let header ← slice data 0 headerLength
  return {
    headerLength := header.length
    source := ← wordAt header 0
    destination := ← wordAt header 2
    checksum := ← wordAt header 16 }

/-- The size of the complete header at the front of a TCP or UDP message. -/
def headerLength (t : Transport) (data : Bytes) : Checked Fault Nat :=
  match t with
  | .tcp => return (← decodeTcp data).headerLength
  | .udp => do
    let _ ← decodeUdp data
    return Udp.Header.size

/-- How much of the front of a TCP or UDP message is header, when the message may be cut short anywhere. -/
def visibleHeader (t : Transport) (data : Bytes) : Run Nat :=
  match t with
  | .tcp => do
    let declared ← match data[12]? with
      | some offset => mul .w64 (offset.toNat / 16) 4
      | none => pure Tcp.Header.minimum
    return min (max declared Tcp.Header.minimum) data.length
  | .udp => return min Udp.Header.size data.length

section Reading

variable {header data : Bytes}

theorem fieldsIPv4_eq (h : 20 ≤ header.length) :
    fieldsIPv4 header = .ok (IPv4.Header.ofBytes header.length header) := by
  have hflags := Bytes.toNat_wordAt (by omega : 6 + 2 ≤ header.length)
  have hhigh := (Bytes.byteAt header 6).toNat_lt
  have hlow := (Bytes.byteAt header (6 + 1)).toNat_lt
  have hdont : (Bytes.byteAt header 6).toNat / 0x40 % 2 = (Bytes.wordAt header 6).toNat / 0x4000 % 2 := by omega
  have hmore : (Bytes.byteAt header 6).toNat / 0x20 % 2 = (Bytes.wordAt header 6).toNat / 0x2000 % 2 := by omega
  simp only [fieldsIPv4, byteAt_eq (by omega : 6 < header.length),
    wordAt_eq (by omega : 6 + 2 ≤ header.length) (by omega), byteAt_eq (by omega : 1 < header.length),
    wordAt_eq (by omega : 2 + 2 ≤ header.length) (by omega), wordAt_eq (by omega : 4 + 2 ≤ header.length) (by omega),
    byteAt_eq (by omega : 8 < header.length), byteAt_eq (by omega : 9 < header.length),
    wordAt_eq (by omega : 10 + 2 ≤ header.length) (by omega), readIPv4_eq (by omega : 12 + 4 ≤ header.length),
    readIPv4_eq (by omega : 16 + 4 ≤ header.length), ok_bind, hdont, hmore]
  rfl

/-- The header length field counts no less than the fixed fields, and the slice it cuts holds them all. -/
theorem decodeIPv4_agrees (data : Bytes) : Agrees (decodeIPv4 data) (IPv4.Header.decode data) := by
  refine Agrees.bind (.ofExcept _) fun _ hsize => ?_
  have hmin : 20 ≤ data.length := Part.ensure_eq_ok.1 hsize
  refine Agrees.run (byteAt_eq (by omega)) ?_
  have hopening := (Bytes.byteAt data 0).toNat_lt
  refine Agrees.ite (fun _ => ?_) fun _ => .throw_bind _ _
  have hmul : mul .w64 ((Bytes.byteAt data 0).toNat % 16) 4 = .ok ((Bytes.byteAt data 0).toNat % 16 * 4) :=
    mul_w64 (by omega)
  refine Agrees.run hmul (Agrees.ite (fun _ => .throw_bind _ _) fun hlow => ?_)
  refine Agrees.bind (.ofExcept _) fun _ hoptions => ?_
  have hhigh := Part.ensure_eq_ok.1 hoptions
  refine Agrees.run (slice_front hhigh) ?_
  have hlow := Nat.not_lt.1 hlow
  have hlength : (data.take ((Bytes.byteAt data 0).toNat % 16 * 4)).length = (Bytes.byteAt data 0).toNat % 16 * 4 :=
    List.length_take_of_le hhigh
  have hfields := fieldsIPv4_eq (Nat.le_trans hlow (Nat.le_of_eq hlength.symm))
  rw [hlength, IPv4.Header.ofBytes_take hlow] at hfields
  exact Agrees.ofRun hfields

theorem fieldsIPv6_eq (h : 40 ≤ header.length) : fieldsIPv6 header = .ok (IPv6.Header.ofBytes header) := by
  have hfour := Bytes.slice_four (by omega : 0 + 4 ≤ header.length)
  have h0 := (Bytes.byteAt header 0).toNat_lt
  have h1 := (Bytes.byteAt header 1).toNat_lt
  have h2 := (Bytes.byteAt header 2).toNat_lt
  have h3 := (Bytes.byteAt header 3).toNat_lt
  have hopening : Bytes.toNat (Bytes.slice header 0 4)
      = (Bytes.byteAt header 0).toNat * 0x1000000 + (Bytes.byteAt header 1).toNat * 0x10000
        + (Bytes.byteAt header 2).toNat * 0x100 + (Bytes.byteAt header 3).toNat := by
    rw [hfour]
    simp [Bytes.toNat_cons]
    omega
  have hclass : UInt8.ofNat ((Bytes.byteAt header 0).toNat * 16 % 0x100 + (Bytes.byteAt header 1).toNat / 16)
      = UInt8.ofNat (Bytes.toNat (Bytes.slice header 0 4) / 0x100000) := by
    apply UInt8.toNat_inj.1
    rw [hopening, UInt8.toNat_ofNat', UInt8.toNat_ofNat']
    omega
  have hlabel : BitVec.ofNat 20 ((Bytes.byteAt header 1).toNat % 16 * 0x10000 + (Bytes.byteAt header 2).toNat * 0x100
      + (Bytes.byteAt header 3).toNat) = BitVec.ofNat 20 (Bytes.toNat (Bytes.slice header 0 4)) := by
    apply BitVec.eq_of_toNat_eq
    rw [hopening, BitVec.toNat_ofNat, BitVec.toNat_ofNat]
    omega
  simp only [fieldsIPv6, byteAt_eq (by omega : 0 < header.length), byteAt_eq (by omega : 1 < header.length),
    byteAt_eq (by omega : 2 < header.length), byteAt_eq (by omega : 3 < header.length),
    wordAt_eq (by omega : 4 + 2 ≤ header.length) (by omega), byteAt_eq (by omega : 6 < header.length),
    byteAt_eq (by omega : 7 < header.length), readIPv6_eq (by omega : 8 + 16 ≤ header.length),
    readIPv6_eq (by omega : 24 + 16 ≤ header.length), ok_bind, hclass, hlabel]
  rfl

theorem decodeIPv6_agrees (data : Bytes) : Agrees (decodeIPv6 data) (IPv6.Header.decode data) := by
  refine Agrees.bind (.ofExcept _) fun _ hsize => ?_
  have hmin : 40 ≤ data.length := Part.ensure_eq_ok.1 hsize
  refine Agrees.run (byteAt_eq (by omega)) (Agrees.ite (fun _ => ?_) fun _ => .throw_bind _ _)
  refine Agrees.run (slice_front hmin) ?_
  have hfields := fieldsIPv6_eq (Nat.le_of_eq (List.length_take_of_le hmin).symm)
  rw [IPv6.Header.ofBytes_take (Nat.le_refl 40)] at hfields
  exact Agrees.ofRun hfields

theorem fieldsIcmp_eq (h : 8 ≤ header.length) : fieldsIcmp header = .ok (Icmp.Header.ofBytes header) := by
  have hrest : Bytes.toNat (Bytes.slice header 4 4)
      = ((Bytes.byteAt header 4).toNat * 0x100 + (Bytes.byteAt header 5).toNat) * 0x10000
        + ((Bytes.byteAt header 6).toNat * 0x100 + (Bytes.byteAt header 7).toNat) := by
    rw [Bytes.slice_four (by omega : 4 + 4 ≤ header.length)]
    simp [Bytes.toNat_cons]
    omega
  simp only [fieldsIcmp, byteAt_eq (by omega : 4 < header.length), byteAt_eq (by omega : 5 < header.length),
    byteAt_eq (by omega : 6 < header.length), byteAt_eq (by omega : 7 < header.length),
    byteAt_eq (by omega : 0 < header.length), byteAt_eq (by omega : 1 < header.length),
    wordAt_eq (by omega : 2 + 2 ≤ header.length) (by omega), ok_bind, ← hrest]
  rfl

theorem decodeIcmp_agrees (data : Bytes) : Agrees (decodeIcmp data) (Icmp.Header.decode data) := by
  refine Agrees.bind (.ofExcept _) fun _ hsize => ?_
  have hmin : 8 ≤ data.length := Part.ensure_eq_ok.1 hsize
  refine Agrees.run (slice_front hmin) ?_
  have hfields := fieldsIcmp_eq (Nat.le_of_eq (List.length_take_of_le hmin).symm)
  have htake : Icmp.Header.ofBytes (data.take 8) = Icmp.Header.ofBytes data := by
    simp only [Icmp.Header.ofBytes, Bytes.byteAt_take (by omega : 0 < 8), Bytes.byteAt_take (by omega : 1 < 8),
      Bytes.wordAt_take (by omega : 2 + 2 ≤ 8), Bytes.slice_take (by omega : 4 + 4 ≤ 8)]
  rw [htake] at hfields
  exact Agrees.ofRun hfields

theorem decodeUdp_agrees (data : Bytes) : Agrees (decodeUdp data) (Udp.Header.decode data) := by
  refine Agrees.bind (.ofExcept _) fun _ hsize => ?_
  have hmin : 8 ≤ data.length := Part.ensure_eq_ok.1 hsize
  have hlength : (data.take 8).length = 8 := List.length_take_of_le hmin
  refine Agrees.run (slice_front hmin) ?_
  refine Agrees.run (wordAt_eq (by omega : 0 + 2 ≤ (data.take 8).length) (by decide)) ?_
  refine Agrees.run (wordAt_eq (by omega : 2 + 2 ≤ (data.take 8).length) (by decide)) ?_
  refine Agrees.run (wordAt_eq (by omega : 4 + 2 ≤ (data.take 8).length) (by decide)) ?_
  refine Agrees.run (wordAt_eq (by omega : 6 + 2 ≤ (data.take 8).length) (by decide)) ?_
  rw [Bytes.wordAt_take (by decide), Bytes.wordAt_take (by decide), Bytes.wordAt_take (by decide),
    Bytes.wordAt_take (by decide)]
  exact .pure _

theorem decodeTcp_agrees (data : Bytes) : Agrees (decodeTcp data) (Tcp.Header.decode data) := by
  refine Agrees.bind (.ofExcept _) fun _ hsize => ?_
  have hmin : 20 ≤ data.length := Part.ensure_eq_ok.1 hsize
  refine Agrees.run (byteAt_eq (by omega)) ?_
  have hoffset := (Bytes.byteAt data 12).toNat_lt
  have hmul : mul .w64 ((Bytes.byteAt data 12).toNat / 16) 4 = .ok (Tcp.Header.declaredLength data) :=
    mul_w64 (by omega)
  refine Agrees.run hmul (Agrees.ite (fun _ => .throw_bind _ _) fun hlow => ?_)
  refine Agrees.bind (.ofExcept _) fun _ hoptions => ?_
  have hhigh := Part.ensure_eq_ok.1 hoptions
  have hlow : 20 ≤ Tcp.Header.declaredLength data := Nat.not_lt.1 hlow
  have hlength : (data.take (Tcp.Header.declaredLength data)).length = Tcp.Header.declaredLength data :=
    List.length_take_of_le hhigh
  refine Agrees.run (slice_front hhigh) ?_
  refine Agrees.run (wordAt_eq (n := 0) (by omega) (by decide)) ?_
  refine Agrees.run (wordAt_eq (n := 2) (by omega) (by decide)) ?_
  refine Agrees.run (wordAt_eq (n := 16) (by omega) (by decide)) ?_
  rw [hlength, Bytes.wordAt_take (by omega), Bytes.wordAt_take (by omega), Bytes.wordAt_take (by omega)]
  exact .pure _

theorem headerLength_agrees (t : Transport) (data : Bytes) : Agrees (headerLength t data) (t.headerLength data) := by
  cases t with
  | tcp => exact (decodeTcp_agrees data).bind fun _ _ => .pure _
  | udp => exact (decodeUdp_agrees data).bind fun _ _ => .pure _

/-- A message too short for its data offset counts as one without options. -/
theorem visibleHeader_eq (t : Transport) (data : Bytes) : visibleHeader t data = .ok (t.visibleHeader data) := by
  cases t with
  | tcp =>
    unfold visibleHeader Transport.visibleHeader Tcp.Header.declaredLength Bytes.byteAt
    cases hoffset : data[12]? with
    | none =>
      simp only [List.getD_eq_getElem?_getD, hoffset]
      rfl
    | some offset =>
      have hlt := offset.toNat_lt
      simp only [List.getD_eq_getElem?_getD, hoffset]
      rw [mul_w64 (by omega)]
      rfl
  | udp => rfl

end Reading

/-! ## Writing headers -/

/-- An IPv4 header whose checksum is still zero, written field by field. -/
def blankIPv4 (f : IPv4.HeaderFields) : Run Bytes := do
  let header ← put (List.replicate 20 0) 0 0x45
  let header ← put header 1 f.tos
  let header ← write header 2 4 (Bytes.ofWord f.totalLength)
  let header ← write header 4 6 (Bytes.ofWord f.identification)
  let header ← if f.dontFragment then put header 6 0x40 else pure header
  let header ← put header 8 f.ttl
  let header ← put header 9 f.protocol
  let header ← write header 12 16 f.src.octets
  write header 16 20 f.dst.octets

/-- The twenty bytes of an IPv4 header. -/
def encodeIPv4 (f : IPv4.HeaderFields) : Run Bytes := do
  let header ← blankIPv4 f
  let checksum ← headerChecksum header
  write header 10 12 (Bytes.ofWord checksum)

/-- The forty bytes of an IPv6 header. -/
def encodeIPv6 (h : IPv6.Header) : Run Bytes := do
  let header ← write (List.replicate 40 0) 0 4 (Bytes.ofNat 4 h.opening)
  let header ← write header 4 6 (Bytes.ofWord h.payloadLength)
  let header ← put header 6 h.nextHeader
  let header ← put header 7 h.hopLimit
  let header ← write header 8 24 h.src.octets
  write header 24 40 h.dst.octets

theorem blankIPv4_eq (f : IPv4.HeaderFields) : blankIPv4 f = .ok f.blank := by
  rcases f with ⟨tos, totalLength, identification, _ | _, ttl, protocol, src, dst⟩
  · rfl
  · rfl

theorem encodeIPv4_eq (f : IPv4.HeaderFields) : encodeIPv4 f = .ok f.encode := by
  have hlength : f.blank.length = 20 := f.length_blank
  rw [encodeIPv4, blankIPv4_eq, ok_bind, headerChecksum_eq (by omega) (by omega), ok_bind, write_word (by omega)]
  rfl

theorem encodeIPv6_eq (h : IPv6.Header) : encodeIPv6 h = .ok h.encode := rfl

end Nat64.Machine
