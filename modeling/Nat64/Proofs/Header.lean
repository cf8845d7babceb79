import Nat64.Header.IPv4
import Nat64.Header.IPv6
import Nat64.Header.Transport
import Nat64.Header.Icmp
import Nat64.Proofs.Bytes

/-!
# Reading the headers that are built

What is read from the front of a packet is what its header was built from.

* `IPv4.Header.decode_eq_ok`, `IPv6.Header.decode_eq_ok`: which packets have a header, and which one.
* `IPv4.HeaderFields.decode_encode`: a header built here has no options and is no fragment,
  and all its fields are read back.
* `IPv6.Header.decode_encode`: all fields are read back.
-/

namespace Nat64

/-! ## Results -/

section Results

variable {α β ε : Type} {a : α} {b : β}

theorem Except.bind_eq_ok {x : Except ε α} {f : α → Except ε β} : (x >>= f) = .ok b ↔ ∃ a, x = .ok a ∧ f a = .ok b := by
  cases x <;> simp [bind, Except.bind]

theorem Except.pure_eq_ok {a' : α} : (pure a : Except ε α) = .ok a' ↔ a = a' := Except.ok.injEq a a' ▸ Iff.rfl

/-- What follows a guard is reached if the guard does not throw. -/
theorem Except.guard_eq_ok {c : Prop} [Decidable c] {e : ε} {f : Unit → Except ε α} {x : Except ε α} :
    (if c then ((throw e : Except ε Unit) >>= f) else x) = .ok a ↔ ¬ c ∧ x = .ok a := by
  split
  · rename_i hc
    simp [hc, throw, throwThe, MonadExceptOf.throw, bind, Except.bind]
  · rename_i hc
    simp [hc]

theorem Except.unless_eq_ok {c : Prop} [Decidable c] {e : ε} {f : Unit → Except ε α} {x : Except ε α} :
    (if c then x else ((throw e : Except ε Unit) >>= f)) = .ok a ↔ c ∧ x = .ok a := by
  split
  · rename_i hc
    simp [hc]
  · rename_i hc
    simp [hc, throw, throwThe, MonadExceptOf.throw, bind, Except.bind]

theorem Part.ensure_eq_ok {part : Part} {size needed : Nat} {u : Unit} :
    part.ensure size needed = .ok u ↔ needed ≤ size := by
  unfold ensure
  split
  · simp
    omega
  · simp
    omega

end Results

namespace IPv4

theorem read_append_left {a b : Bytes} {offset : Nat} (h : offset + 4 ≤ a.length) :
    read (a ++ b) offset = read a offset := by
  rw [read, Bytes.slice_append_left h, read]

theorem read_append_right {a b : Bytes} {offset : Nat} (h : a.length ≤ offset) :
    read (a ++ b) offset = read b (offset - a.length) := by
  rw [read, Bytes.slice_append_right h, read]

theorem read_octets (a : IPv4) : read a.octets 0 = a := by
  rw [read, Bytes.slice_self (by simp), ofOctets_octets]

theorem octets_read {data : Bytes} {offset : Nat} (h : offset + 4 ≤ data.length) :
    (read data offset).octets = Bytes.slice data offset 4 := by
  have hlt := Bytes.toNat_lt (Bytes.slice data offset 4)
  rw [Bytes.length_slice h] at hlt
  rw [read, octets, ofOctets, toNat_ofNat, Nat.mod_eq_of_lt (by omega), Bytes.ofNat_toNat_slice h]

/-- The size of the header that a packet opens with, as its low nibble declares it. -/
def Header.declaredSize (data : Bytes) : Nat := (Bytes.byteAt data 0).toNat % 16 * 4

theorem Header.decode_eq_ok {data : Bytes} {h : Header} :
    decode data = .ok h ↔ (Bytes.byteAt data 0).toNat / 16 = 4 ∧ 20 ≤ declaredSize data ∧
      declaredSize data ≤ data.length ∧ h = ofBytes (declaredSize data) data := by
  simp only [decode, Except.bind_eq_ok, Except.guard_eq_ok, Except.unless_eq_ok, Except.pure_eq_ok, Part.ensure_eq_ok]
  simp only [minimum, declaredSize]
  constructor
  · rintro ⟨-, -, hversion, hlow, -, hhigh, rfl⟩
    exact ⟨hversion, by omega, hhigh, rfl⟩
  · rintro ⟨hversion, hlow, hhigh, rfl⟩
    exact ⟨(), by omega, hversion, by omega, (), hhigh, rfl⟩

theorem read_take {data : Bytes} {offset n : Nat} (h : offset + 4 ≤ n) :
    read (data.take n) offset = read data offset := by
  rw [read, Bytes.slice_take h, read]

theorem Header.ofBytes_take {n : Nat} (hn : 20 ≤ n) (headerLength : Nat) (data : Bytes) :
    ofBytes headerLength (data.take n) = ofBytes headerLength data := by
  simp only [ofBytes, Bytes.byteAt_take (by omega : 1 < n), Bytes.wordAt_take (by omega : 2 + 2 ≤ n),
    Bytes.wordAt_take (by omega : 4 + 2 ≤ n), Bytes.wordAt_take (by omega : 6 + 2 ≤ n),
    Bytes.byteAt_take (by omega : 8 < n), Bytes.byteAt_take (by omega : 9 < n),
    Bytes.wordAt_take (by omega : 10 + 2 ≤ n), read_take (by omega : 12 + 4 ≤ n), read_take (by omega : 16 + 4 ≤ n)]

/-- A header is read off the bytes it covers. -/
theorem Header.decode_take {data : Bytes} {h : Header} {n : Nat} (hdata : decode data = .ok h)
    (hn : h.headerLength ≤ n) :
    decode (data.take n) = .ok h := by
  obtain ⟨hversion, hlow, hhigh, hread⟩ := decode_eq_ok.1 hdata
  have hlength : h.headerLength = declaredSize data := by rw [hread, ofBytes]
  rw [hlength] at hn
  have hopening : Bytes.byteAt (data.take n) 0 = Bytes.byteAt data 0 := Bytes.byteAt_take (by omega)
  have hsize : declaredSize (data.take n) = declaredSize data := by rw [declaredSize, hopening, declaredSize]
  have hmin : 20 ≤ n := by omega
  refine decode_eq_ok.2 ⟨?_, ?_, ?_, ?_⟩
  · rw [hopening]
    exact hversion
  · rw [hsize]
    exact hlow
  · rw [hsize, List.length_take]
    omega
  · rw [hsize, hread, ofBytes_take hmin]

/-- A header declares a payload if it declares no less than itself. -/
theorem Header.payloadLength_eq_ok {h : Header} {n : Nat} :
    h.payloadLength = .ok n ↔ h.headerLength + n = h.totalLength.toNat := by
  unfold payloadLength
  split
  · simp
    omega
  · rw [Except.ok.injEq]
    omega

namespace HeaderFields

/-- The header that is read where one was built. -/
def header (f : HeaderFields) : Header where
  headerLength := Header.minimum
  tos := f.tos
  totalLength := f.totalLength
  identification := f.identification
  dontFragment := f.dontFragment
  moreFragments := false
  fragmentOffset := 0
  ttl := f.ttl
  protocol := f.protocol
  checksum := Checksum.ofBytes f.blank
  src := f.src
  dst := f.dst

theorem blank_eq (f : HeaderFields) :
    f.blank = ([0x45, f.tos] ++ (Bytes.ofWord f.totalLength ++ (Bytes.ofWord f.identification
      ++ [if f.dontFragment then 0x40 else 0, 0, f.ttl, f.protocol])))
      ++ ([0, 0] ++ (f.src.octets ++ f.dst.octets)) := by
  simp [blank]

theorem wordAt_blank (f : HeaderFields) : Bytes.wordAt f.blank 10 = 0 := by
  rw [blank_eq, Bytes.wordAt_append_right (by simp), Bytes.wordAt_append_left (by simp)]
  rfl

/-- The parts of a header, one after the other. -/
theorem encode_eq (f : HeaderFields) :
    f.encode = [0x45, f.tos] ++ (Bytes.ofWord f.totalLength ++ (Bytes.ofWord f.identification
      ++ ([if f.dontFragment then 0x40 else 0, 0] ++ ([f.ttl, f.protocol]
      ++ (Bytes.ofWord (Checksum.ofBytes f.blank) ++ (f.src.octets ++ f.dst.octets)))))) := by
  have hset := congrArg (Bytes.setWord · 10 (Checksum.ofBytes f.blank)) f.blank_eq
  rw [encode, hset, Bytes.setWord_between (by simp) rfl]
  simp

theorem ofBytes_encode (f : HeaderFields) (rest : Bytes) :
    Header.ofBytes Header.minimum (f.encode ++ rest) = f.header := by
  rw [encode_eq]
  have hflags : Bytes.wordAt ([if f.dontFragment then 0x40 else 0, 0] : Bytes) 0
      = if f.dontFragment then 0x4000 else 0 := by
    cases f.dontFragment <;> rfl
  simp only [Header.ofBytes, header, List.append_assoc, Bytes.wordAt_append_right, Bytes.wordAt_append_left,
    Bytes.wordAt_ofWord, Bytes.byteAt_append_right, Bytes.byteAt_append_left, read_append_right, read_append_left,
    read_octets, hflags, List.length_cons, List.length_nil, Bytes.length_ofWord, length_octets, Nat.reduceAdd,
    Nat.reduceSub, Nat.reduceLeDiff, Nat.reduceLT, Nat.le_refl]
  cases f.dontFragment <;> rfl

theorem byteAt_encode_zero (f : HeaderFields) (rest : Bytes) : Bytes.byteAt (f.encode ++ rest) 0 = 0x45 := by
  rw [encode_eq]
  rfl

/-- A header that was built is read back; it has no options and is no fragment. -/
theorem decode_encode (f : HeaderFields) (rest : Bytes) : Header.decode (f.encode ++ rest) = .ok f.header := by
  have hopening := byteAt_encode_zero f rest
  have hsize : Header.declaredSize (f.encode ++ rest) = 20 := by
    rw [Header.declaredSize, hopening]
    rfl
  refine Header.decode_eq_ok.2 ⟨by rw [hopening]; rfl, by omega, ?_, ?_⟩
  · rw [hsize]
    simp
  · rw [hsize]
    exact (ofBytes_encode f rest).symm

end HeaderFields

end IPv4

namespace IPv6

theorem read_append_left {a b : Bytes} {offset : Nat} (h : offset + 16 ≤ a.length) :
    read (a ++ b) offset = read a offset := by
  rw [read, Bytes.slice_append_left h, read]

theorem read_append_right {a b : Bytes} {offset : Nat} (h : a.length ≤ offset) :
    read (a ++ b) offset = read b (offset - a.length) := by
  rw [read, Bytes.slice_append_right h, read]

theorem read_octets (a : IPv6) : read a.octets 0 = a := by
  rw [read, Bytes.slice_self (by simp), ofOctets_octets]

theorem octets_read {data : Bytes} {offset : Nat} (h : offset + 16 ≤ data.length) :
    (read data offset).octets = Bytes.slice data offset 16 := by
  have hlt := Bytes.toNat_lt (Bytes.slice data offset 16)
  rw [Bytes.length_slice h] at hlt
  rw [read, octets, ofOctets, toNat_ofNat, Nat.mod_eq_of_lt (by omega), Bytes.ofNat_toNat_slice h]

namespace Header

/-- The first four bytes of a header as a number. -/
def opening (h : Header) : Nat := 0x60000000 + h.trafficClass.toNat * 0x100000 + h.flowLabel.toNat

theorem toNat_opening (h : Header) : Bytes.toNat (Bytes.ofNat 4 h.opening) = h.opening := by
  have hclass := h.trafficClass.toNat_lt
  have hlabel := h.flowLabel.isLt
  rw [Bytes.toNat_ofNat, opening]
  omega

theorem ofBytes_encode (h : Header) (rest : Bytes) : ofBytes (h.encode ++ rest) = h := by
  have hclass := h.trafficClass.toNat_lt
  have hlabel := h.flowLabel.isLt
  have hencode : h.encode ++ rest = Bytes.ofNat 4 h.opening ++ (Bytes.ofWord h.payloadLength
      ++ ([h.nextHeader, h.hopLimit] ++ (h.src.octets ++ (h.dst.octets ++ rest)))) := by
    simp [encode, opening]
  rw [hencode]
  simp only [ofBytes, Bytes.slice_append_left, Bytes.slice_self, toNat_opening, Bytes.wordAt_append_right,
    Bytes.wordAt_append_left, Bytes.wordAt_ofWord, Bytes.byteAt_append_right, Bytes.byteAt_append_left,
    read_append_right, read_append_left, read_octets, List.length_cons, List.length_nil, Bytes.length_ofWord,
    Bytes.length_ofNat, length_octets, Nat.reduceAdd, Nat.reduceSub, Nat.reduceLeDiff, Nat.reduceLT, Nat.le_refl]
  have htop : UInt8.ofNat (h.opening / 0x100000) = h.trafficClass := by
    apply UInt8.toNat_inj.1
    rw [UInt8.toNat_ofNat', opening]
    omega
  have hlow : BitVec.ofNat 20 h.opening = h.flowLabel := by
    apply BitVec.eq_of_toNat_eq
    rw [BitVec.toNat_ofNat, opening]
    omega
  rw [htop, hlow]
  rfl

theorem decode_eq_ok {data : Bytes} {h : Header} :
    decode data = .ok h ↔ size ≤ data.length ∧ (Bytes.byteAt data 0).toNat / 16 = 6 ∧ h = ofBytes data := by
  simp only [decode, Except.bind_eq_ok, Except.unless_eq_ok, Except.pure_eq_ok, Part.ensure_eq_ok]
  constructor
  · rintro ⟨-, hlength, hversion, rfl⟩
    exact ⟨hlength, hversion, rfl⟩
  · rintro ⟨hlength, hversion, rfl⟩
    exact ⟨(), hlength, hversion, rfl⟩

theorem ofBytes_take {n : Nat} (hn : 40 ≤ n) (data : Bytes) : ofBytes (data.take n) = ofBytes data := by
  simp only [ofBytes, read, Bytes.slice_take (by omega : 0 + 4 ≤ n), Bytes.wordAt_take (by omega : 4 + 2 ≤ n),
    Bytes.byteAt_take (by omega : 6 < n), Bytes.byteAt_take (by omega : 7 < n),
    Bytes.slice_take (by omega : 8 + 16 ≤ n), Bytes.slice_take (by omega : 24 + 16 ≤ n)]

/-- A header is read off the bytes it covers. -/
theorem decode_take {data : Bytes} {h : Header} {n : Nat} (hdata : decode data = .ok h) (hn : 40 ≤ n) :
    decode (data.take n) = .ok h := by
  obtain ⟨hlength, hversion, hread⟩ := decode_eq_ok.1 hdata
  refine decode_eq_ok.2 ⟨?_, ?_, ?_⟩
  · rw [List.length_take]
    exact Nat.le_min.2 ⟨hn, hlength⟩
  · rw [Bytes.byteAt_take (by omega)]
    exact hversion
  · rw [hread, ofBytes_take hn]

theorem toNat_byteAt_encode_zero (h : Header) (rest : Bytes) : (Bytes.byteAt (h.encode ++ rest) 0).toNat / 16 = 6 := by
  have hclass := h.trafficClass.toNat_lt
  have hlabel := h.flowLabel.isLt
  have hbyte : Bytes.byteAt (h.encode ++ rest) 0 = UInt8.ofNat (h.opening / 0x1000000) := rfl
  rw [hbyte, UInt8.toNat_ofNat', opening]
  omega

/-- A header that was built is read back. -/
theorem decode_encode (h : Header) (rest : Bytes) : decode (h.encode ++ rest) = .ok h := by
  refine decode_eq_ok.2 ⟨?_, toNat_byteAt_encode_zero h rest, (ofBytes_encode h rest).symm⟩
  rw [List.length_append, length_encode]
  exact Nat.le_add_right 40 _

/-- The first four bytes as they were read. -/
theorem opening_ofBytes {data : Bytes} (hlength : 4 ≤ data.length) (hversion : (Bytes.byteAt data 0).toNat / 16 = 6) :
    (ofBytes data).opening = Bytes.toNat (Bytes.slice data 0 4) := by
  have hbyte := (Bytes.byteAt data 0).toNat_lt
  have hrest := Bytes.toNat_lt (Bytes.slice data 1 3)
  rw [Bytes.length_slice (by omega)] at hrest
  have hnumber : Bytes.toNat (Bytes.slice data 0 4)
      = (Bytes.byteAt data 0).toNat * 0x1000000 + Bytes.toNat (Bytes.slice data 1 3) := by
    rw [Bytes.slice_add data 0 1 3, Bytes.slice_one (by omega), List.singleton_append, Bytes.toNat_cons,
      Bytes.length_slice (by omega)]
  simp only [opening, ofBytes, UInt8.toNat_ofNat', BitVec.toNat_ofNat]
  omega

/-- A header that was read is built as it was. -/
theorem encode_of_decode {data : Bytes} {h : Header} (hdata : decode data = .ok h) : h.encode = data.take 40 := by
  obtain ⟨hlength, hversion, rfl⟩ := decode_eq_ok.1 hdata
  have hlength : 40 ≤ data.length := hlength
  have hopening : Bytes.ofNat 4 (ofBytes data).opening = Bytes.slice data 0 4 := by
    rw [opening_ofBytes (by omega) hversion, Bytes.ofNat_toNat_slice (by omega)]
  calc (ofBytes data).encode
      = Bytes.ofNat 4 (ofBytes data).opening ++ Bytes.ofWord (Bytes.wordAt data 4)
          ++ [Bytes.byteAt data 6, Bytes.byteAt data 7] ++ (read data 8).octets ++ (read data 24).octets := rfl
    _ = Bytes.slice data 0 4 ++ Bytes.slice data 4 2 ++ (Bytes.slice data 6 1 ++ Bytes.slice data 7 1)
          ++ Bytes.slice data 8 16 ++ Bytes.slice data 24 16 := by
        rw [hopening, Bytes.ofWord_wordAt (by omega), octets_read (by omega), octets_read (by omega),
          Bytes.slice_one (by omega), Bytes.slice_one (by omega)]
        rfl
    _ = Bytes.slice data 0 40 := by
        simp only [← List.append_assoc, ← Bytes.slice_add data 0]

end Header

end IPv6

/-! ## Headers of messages -/

/-- The fields at their offsets. -/
def Icmp.Header.ofBytes (data : Bytes) : Header where
  type := Bytes.byteAt data 0
  code := Bytes.byteAt data 1
  checksum := Bytes.wordAt data 2
  rest := UInt32.ofNat (Bytes.toNat (Bytes.slice data 4 4))

theorem Icmp.Header.decode_eq_ok {data : Bytes} {h : Header} :
    decode data = .ok h ↔ 8 ≤ data.length ∧ h = ofBytes data := by
  simp only [decode, Except.bind_eq_ok, Except.pure_eq_ok, Part.ensure_eq_ok]
  constructor
  · rintro ⟨-, hlength, rfl⟩
    exact ⟨hlength, rfl⟩
  · rintro ⟨hlength, rfl⟩
    exact ⟨(), hlength, rfl⟩

theorem Icmp.Header.encode_eq (h : Header) :
    h.encode = [h.type, h.code] ++ (Bytes.ofWord h.checksum ++ Bytes.ofNat 4 h.rest.toNat) := by
  rw [encode, List.append_assoc]

/-- There is room for a checksum behind type and code. -/
theorem Icmp.Header.checksum_in_encode (h : Header) : 2 + 2 ≤ h.encode.length := by
  rw [length_encode]
  decide

theorem Icmp.Header.wordAt_encode (h : Header) (rest : Bytes) : Bytes.wordAt (h.encode ++ rest) 2 = h.checksum := by
  rw [encode_eq, Bytes.wordAt_append_left (by simp), Bytes.wordAt_append_right (by simp),
    Bytes.wordAt_append_left (by simp)]
  exact Bytes.wordAt_ofWord h.checksum

theorem Icmp.Header.setWord_encode (h : Header) (checksum : UInt16) :
    Bytes.setWord h.encode 2 checksum = { h with checksum }.encode := by
  have hfront : [h.type, h.code].length = 2 := rfl
  rw [encode_eq, Bytes.setWord_between hfront (Bytes.length_ofWord _), encode_eq]

theorem Transport.checksumOffset_even (t : Transport) : t.checksumOffset % 2 = 0 := by
  cases t <;> rfl

/-- The size of a complete header covers its checksum and is covered by the message. -/
theorem Transport.headerLength_eq_ok {t : Transport} {data : Bytes} {n : Nat} (h : t.headerLength data = .ok n) :
    t.checksumOffset + 2 ≤ n ∧ n ≤ data.length := by
  cases t with
  | tcp =>
    simp only [headerLength, Tcp.Header.decode, Except.bind_eq_ok, Except.guard_eq_ok, Part.ensure_eq_ok,
      Except.pure_eq_ok] at h
    obtain ⟨_, ⟨_, -, hlow, _, hhigh, rfl⟩, rfl⟩ := h
    simp only [Tcp.Header.minimum] at hlow
    exact ⟨by simp only [checksumOffset]; omega, hhigh⟩
  | udp =>
    simp only [headerLength, Udp.Header.decode, Except.bind_eq_ok, Part.ensure_eq_ok, Except.pure_eq_ok] at h
    obtain ⟨_, ⟨_, hlength, rfl⟩, rfl⟩ := h
    exact ⟨Nat.le_refl 8, hlength⟩

/-- The checksum lies inside the header as it is cut from the message. -/
theorem Transport.checksum_in_header {t : Transport} {data : Bytes} {n : Nat} (h : t.headerLength data = .ok n) :
    t.checksumOffset + 2 ≤ (data.take n).length := by
  obtain ⟨hfield, hlength⟩ := headerLength_eq_ok h
  rwa [List.length_take_of_le hlength]

end Nat64
