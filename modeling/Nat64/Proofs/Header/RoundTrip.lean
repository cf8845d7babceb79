import Nat64.Proofs.Checksum.Verification
import Nat64.Proofs.Header

/-!
# Headers there and back

What is read from a header that was built is what it was built from, whatever follows it. A header that was read is
built again byte for byte: every IPv6 header, and the IPv4 headers that have nothing that is lost.

* `IPv4.HeaderFields.verifies_encode`: the checksum of a header that was built.
* `IPv4.Canonical`, `IPv4.canonical_iff`: the headers that are built again as they were.
* `IPv6.HeaderFields`, `IPv6.HeaderFields.encode_eq`: what an IPv6 header is built from, and the
  bits of the label that are left.
* `headers_round_trip`: both families in both directions.
-/

namespace Nat64

/-! ## IPv4 -/

namespace IPv4

namespace HeaderFields

/-- A checksum has room in a header. -/
theorem checksum_in_blank (f : HeaderFields) : 10 + 2 ≤ f.blank.length := by
  rw [length_blank]
  decide

theorem verifies_encode (f : HeaderFields) : Checksum.Verifies f.encode := by
  have hcompletes := Checksum.standsFor_nil.completes f.blank
  rw [encode, ← List.nil_append (Bytes.setWord _ _ _)]
  exact Checksum.verifies_setWord Checksum.standsFor_nil rfl f.checksum_in_blank f.wordAt_blank hcompletes

/-- The word that holds the flags and the place of a fragment. -/
theorem wordAt_encode_flags (f : HeaderFields) : Bytes.wordAt f.encode 6 = if f.dontFragment then 0x4000 else 0 := by
  rw [encode_eq, Bytes.wordAt_append_right (by simp), Bytes.wordAt_append_right (by simp),
    Bytes.wordAt_append_right (by simp), Bytes.wordAt_append_left (by simp)]
  cases f.dontFragment <;> rfl

/-- Without its checksum a header is as it was before it got one. -/
theorem setWord_encode_zero (f : HeaderFields) : Bytes.setWord f.encode 10 0 = f.blank := by
  rw [encode, Bytes.setWord_setWord f.checksum_in_blank, ← f.wordAt_blank, Bytes.setWord_wordAt f.checksum_in_blank]

end HeaderFields

/-- A header as one is built here: no options, no bits of a fragment, and the checksum that is computed over it. -/
structure Canonical (data : Bytes) : Prop where
  length_eq : data.length = 20
  opens : Bytes.byteAt data 0 = 0x45
  /-- The reserved bit is zero. -/
  unreserved : (Bytes.wordAt data 6).toNat / 0x8000 = 0
  /-- No fragment follows, and this is not one. -/
  whole : (Bytes.wordAt data 6).toNat % 0x4000 = 0
  checksum_eq : Bytes.wordAt data 10 = Checksum.ofBytes (Bytes.setWord data 10 0)

theorem HeaderFields.canonical_encode (f : HeaderFields) : Canonical f.encode where
  length_eq := f.length_encode
  opens := by
    have hopening := f.byteAt_encode_zero []
    rwa [List.append_nil] at hopening
  unreserved := by
    rw [wordAt_encode_flags]
    cases f.dontFragment <;> rfl
  whole := by
    rw [wordAt_encode_flags]
    cases f.dontFragment <;> rfl
  checksum_eq := by
    rw [setWord_encode_zero, encode, Bytes.wordAt_setWord f.checksum_in_blank]

namespace Canonical

variable {data : Bytes}

/-- All that is left of flags and place is whether the packet may be cut. -/
theorem flags (hdata : Canonical data) :
    Bytes.slice data 6 2 = [if (Header.ofBytes 20 data).dontFragment then 0x40 else 0, 0] := by
  have hlength := hdata.length_eq
  have hhigh := hdata.unreserved
  have hlow := hdata.whole
  have hcases : (Bytes.wordAt data 6).toNat = 0 ∨ (Bytes.wordAt data 6).toNat = 0x4000 := by omega
  have hflag : (Header.ofBytes 20 data).dontFragment = ((Bytes.wordAt data 6).toNat / 0x4000 % 2 == 1) := rfl
  rw [← Bytes.ofWord_wordAt (by omega), hflag, Bytes.ofWord]
  rcases hcases with hzero | hone
  · rw [hzero]
    rfl
  · rw [hone]
    rfl

theorem blank_eq (hdata : Canonical data) : (Header.ofBytes 20 data).fields.blank = Bytes.setWord data 10 0 := by
  have hlength := hdata.length_eq
  have hopens : Bytes.slice data 0 2 = [0x45, Bytes.byteAt data 1] := by
    rw [Bytes.slice_two (by omega), hdata.opens]
  have hfront : data.take 10 = [0x45, Bytes.byteAt data 1] ++ Bytes.ofWord (Bytes.wordAt data 2)
      ++ Bytes.ofWord (Bytes.wordAt data 4) ++ [if (Header.ofBytes 20 data).dontFragment then 0x40 else 0, 0]
      ++ [Bytes.byteAt data 8, Bytes.byteAt data 9] := by
    rw [← hopens, Bytes.ofWord_wordAt (by omega), Bytes.ofWord_wordAt (by omega), ← hdata.flags,
      ← Bytes.slice_two (by omega)]
    simp only [← Bytes.slice_add data 0]
    rfl
  have hback : data.drop 12 = (read data 12).octets ++ (read data 16).octets := by
    rw [octets_read (by omega), octets_read (by omega), ← Bytes.slice_add data 12 4 4, Bytes.slice,
      List.take_of_length_le (by rw [List.length_drop]; omega)]
  rw [Bytes.setWord, hfront, hback]
  simp only [HeaderFields.blank, List.append_assoc, List.cons_append, List.nil_append]
  rfl

theorem encode_fields (hdata : Canonical data) : (Header.ofBytes 20 data).fields.encode = data := by
  have hlength := hdata.length_eq
  rw [HeaderFields.encode, hdata.blank_eq, ← hdata.checksum_eq, Bytes.setWord_setWord (by omega),
    Bytes.setWord_wordAt (by omega)]

theorem decode_eq (hdata : Canonical data) : Header.decode data = .ok (Header.ofBytes 20 data) := by
  have hsize : Header.declaredSize data = 20 := by
    rw [Header.declaredSize, hdata.opens]
    rfl
  refine Header.decode_eq_ok.2 ⟨?_, Nat.le_of_eq hsize.symm, Nat.le_of_eq (hsize.trans hdata.length_eq.symm), ?_⟩
  · rw [hdata.opens]
    rfl
  · rw [hsize]

end Canonical

/-- The headers that are built again as they were read. -/
theorem canonical_iff {data : Bytes} :
    Canonical data ↔ ∃ h, Header.decode data = .ok h ∧ h.fields.encode = data := by
  constructor
  · intro hdata
    exact ⟨_, hdata.decode_eq, hdata.encode_fields⟩
  · rintro ⟨h, -, hencode⟩
    rw [← hencode]
    exact h.fields.canonical_encode

end IPv4

/-! ## IPv6 -/

namespace IPv6

/-- What a header is built from. The label has 32 bits here. -/
structure HeaderFields where
  trafficClass : UInt8
  flowLabel : UInt32
  payloadLength : UInt16
  nextHeader : UInt8
  hopLimit : UInt8
  src : IPv6
  dst : IPv6
deriving DecidableEq

namespace HeaderFields

/-- The first four bytes: version, traffic class, and the bits of the label that there is room for. -/
def opening (f : HeaderFields) : UInt32 :=
  (6 : UInt32) <<< 28 ||| f.trafficClass.toUInt32 <<< 20 ||| f.flowLabel &&& 0xfffff

/-- The forty bytes of the header. -/
def encode (f : HeaderFields) : Bytes :=
  Bytes.ofNat 4 f.opening.toNat ++ Bytes.ofWord f.payloadLength ++ [f.nextHeader, f.hopLimit] ++ f.src.octets
    ++ f.dst.octets

/-- The header that is read where one was built. -/
def header (f : HeaderFields) : Header where
  trafficClass := f.trafficClass
  flowLabel := BitVec.ofNat 20 f.flowLabel.toNat
  payloadLength := f.payloadLength
  nextHeader := f.nextHeader
  hopLimit := f.hopLimit
  src := f.src
  dst := f.dst

end HeaderFields

/-- The fields of a received header. -/
def Header.fields (h : Header) : HeaderFields where
  trafficClass := h.trafficClass
  flowLabel := UInt32.ofNat h.flowLabel.toNat
  payloadLength := h.payloadLength
  nextHeader := h.nextHeader
  hopLimit := h.hopLimit
  src := h.src
  dst := h.dst

namespace HeaderFields

/-- Version, class and label lie side by side, so that putting them together adds them up. -/
theorem or_shiftLeft {c : Nat} (hc : c < 0x100) (l : Nat) :
    6 <<< 28 ||| c <<< 20 ||| l &&& 0xfffff = 0x60000000 + c * 0x100000 + l % 0x100000 := by
  have hlow : l &&& 0xfffff = l % 0x100000 := Nat.and_two_pow_sub_one_eq_mod l 20
  have hlt : l % 0x100000 < 0x100000 := Nat.mod_lt _ (by decide)
  have hversion : 6 <<< 8 + c = 6 <<< 8 ||| c := Nat.shiftLeft_add_eq_or_of_lt hc 6
  have hhigh : 6 <<< 28 ||| c <<< 20 = (6 <<< 8 + c) <<< 20 := by
    rw [hversion, Nat.shiftLeft_or_distrib]
    rfl
  rw [hlow, hhigh, ← Nat.shiftLeft_add_eq_or_of_lt hlt, Nat.shiftLeft_eq]
  omega

theorem toNat_opening (f : HeaderFields) : f.opening.toNat = f.header.opening := by
  have hclass := f.trafficClass.toNat_lt
  have hshift : (f.trafficClass.toUInt32 <<< 20).toNat = f.trafficClass.toNat <<< 20 := by
    rw [UInt32.toNat_shiftLeft, UInt8.toNat_toUInt32]
    show f.trafficClass.toNat <<< 20 % _ = _
    rw [Nat.shiftLeft_eq]
    omega
  have hlabel : f.header.flowLabel.toNat = f.flowLabel.toNat % 0x100000 := BitVec.toNat_ofNat ..
  rw [opening, UInt32.toNat_or, UInt32.toNat_or, hshift, UInt32.toNat_and, Header.opening, hlabel]
  exact or_shiftLeft hclass f.flowLabel.toNat

theorem encode_eq (f : HeaderFields) : f.encode = f.header.encode := by
  rw [encode, toNat_opening]
  rfl

/-- All but the upper bits of the label are read back. -/
theorem fields_header (f : HeaderFields) : f.header.fields = { f with flowLabel := f.flowLabel % 0x100000 } := by
  have hlabel : UInt32.ofNat (BitVec.ofNat 20 f.flowLabel.toNat).toNat = f.flowLabel % 0x100000 := by
    apply UInt32.toNat_inj.1
    rw [UInt32.toNat_ofNat', BitVec.toNat_ofNat, UInt32.toNat_mod]
    show _ = f.flowLabel.toNat % 0x100000
    omega
  rw [Header.fields, header, hlabel]

end HeaderFields

theorem Header.header_fields (h : Header) : h.fields.header = h := by
  have hlabel : BitVec.ofNat 20 (UInt32.ofNat h.flowLabel.toNat).toNat = h.flowLabel := by
    have hlt := h.flowLabel.isLt
    apply BitVec.eq_of_toNat_eq
    rw [BitVec.toNat_ofNat, UInt32.toNat_ofNat']
    omega
  rw [fields, HeaderFields.header, hlabel]

end IPv6

/-! ## Both families -/

/-- Building and reading headers are inverse to each other. -/
theorem headers_round_trip :
    (∀ (f : IPv4.HeaderFields) (rest : Bytes), ∃ h, IPv4.Header.decode (f.encode ++ rest) = .ok h ∧
      h.headerLength = 20 ∧ h.fields = f ∧ h.isFragment = false ∧ f.encode.length = 20 ∧ Checksum.Verifies f.encode) ∧
    (∀ data, IPv4.Canonical data ↔ ∃ h, IPv4.Header.decode data = .ok h ∧ h.fields.encode = data) ∧
    (∀ (f : IPv6.HeaderFields) (rest : Bytes), ∃ h, IPv6.Header.decode (f.encode ++ rest) = .ok h ∧
      h.fields = { f with flowLabel := f.flowLabel % 0x100000 }) ∧
    (∀ data h, data.length = 40 → IPv6.Header.decode data = .ok h → h.fields.encode = data) := by
  refine ⟨fun f rest => ?_, fun data => IPv4.canonical_iff, fun f rest => ?_, fun data h hlength hdata => ?_⟩
  · exact ⟨f.header, f.decode_encode rest, rfl, rfl, rfl, f.length_encode, f.verifies_encode⟩
  · refine ⟨f.header, ?_, f.fields_header⟩
    rw [f.encode_eq]
    exact f.header.decode_encode rest
  · rw [h.fields.encode_eq, h.header_fields, IPv6.Header.encode_of_decode hdata]
    exact List.take_of_length_le (Nat.le_of_eq hlength)

/-- An IPv4 header that was read, and an IPv6 header from a label that is too large, in
front of other bytes and alone. -/
theorem headers_round_trip_samples :
    (∃ h, IPv4.Header.decode [0x45, 0, 0, 0x73, 0, 0, 0x40, 0, 0x40, 0x11, 0xb8, 0x61, 192, 168, 0, 1, 192, 168, 0, 199]
        = .ok h ∧
      h.fields.encode = [0x45, 0, 0, 0x73, 0, 0, 0x40, 0, 0x40, 0x11, 0xb8, 0x61, 192, 168, 0, 1, 192, 168, 0, 199]) ∧
    (∃ h, IPv6.Header.decode
        ((⟨0xab, 0xfff12345, 0, 59, 64, IPv6.ofNat 1, IPv6.ofNat 2⟩ : IPv6.HeaderFields).encode ++ [1, 2, 3]) = .ok h ∧
      h.fields = ⟨0xab, 0x12345, 0, 59, 64, IPv6.ofNat 1, IPv6.ofNat 2⟩) ∧
    (⟨0xab, 0x12345#20, 0, 59, 64, IPv6.ofNat 1, IPv6.ofNat 2⟩ : IPv6.Header).fields.encode
      = (⟨0xab, 0xfff12345, 0, 59, 64, IPv6.ofNat 1, IPv6.ofNat 2⟩ : IPv6.HeaderFields).encode := by
  obtain ⟨-, hcanonical, hread, hbuilt⟩ := headers_round_trip
  refine ⟨(hcanonical _).1 ⟨by decide, by decide, by decide, by decide, by decide⟩, ?_, hbuilt _ _ rfl rfl⟩
  obtain ⟨h, hdecode, hfields⟩ := hread ⟨0xab, 0xfff12345, 0, 59, 64, IPv6.ofNat 1, IPv6.ofNat 2⟩ [1, 2, 3]
  have hlabel : (0xfff12345 : UInt32) % 0x100000 = 0x12345 := by decide
  rw [hlabel] at hfields
  exact ⟨h, hdecode, hfields⟩

end Nat64
