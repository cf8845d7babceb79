import Nat64.Proofs.Assembly
import Nat64.Proofs.Machine.Assembly

/-!
# Datagrams that seal themselves

The checksum from a segment on is the one of RFC 1071 of the bytes from there on, wherever they are cut; written into an
empty field of that segment, it leaves a datagram whose checksum is zero. A checksum is written into a field of an owned
segment and changes nothing else.

* `Checksum.onesSum`: the sum of RFC 1071, word after word in ones' complement; `same_onesSum`: its class.
* `checksumFrom_eq_onesSum`: the checksum from a segment on.
* `HasField`, `putChecksum_of_field`, `putChecksum_of_no_field`: where a checksum is written,
  and what that does to the bytes.
* `seals_itself`: for every datagram, segment and offset, the two offsets at the end of all numbers among them.
-/

namespace Nat64

/-! ## Ones' complement -/

namespace Checksum

/-- The sum of two words in ones' complement: what is carried out at the top is added at the bottom. -/
def onesAdd (v w : UInt16) : UInt16 := if v.toNat + w.toNat < 0x10000 then v + w else v + w + 1

/-- The sum of the two halves of a number of 32 bits. -/
def onesHalves (n : UInt32) : UInt16 := onesAdd (n >>> 16).toUInt16 n.toUInt16

/-- The sum of the 16-bit words of a buffer, added to a word; a last odd byte is the high half of its word. -/
def onesSum (sum : UInt16) : Bytes → UInt16
  | [] => sum
  | [last] => onesAdd sum (UInt16.ofNat (last.toNat * 0x100))
  | high :: low :: rest => onesSum (onesAdd sum (UInt16.ofNat (high.toNat * 0x100 + low.toNat))) rest

theorem same_onesAdd (v w : UInt16) : Same (onesAdd v w).toNat (v.toNat + w.toNat) := by
  have hv := v.toNat_lt
  have hw := w.toNat_lt
  have hone : (1 : UInt16).toNat = 1 := rfl
  unfold onesAdd Same
  split
  · rw [UInt16.toNat_add]
    omega
  · rw [UInt16.toNat_add, UInt16.toNat_add, hone]
    omega

theorem same_onesHalves (n : UInt32) : Same (onesHalves n).toNat n.toNat := by
  have hlt := n.toNat_lt
  have hhigh : (n >>> 16).toUInt16.toNat = n.toNat / 0x10000 := by
    simp [Nat.shiftRight_eq_div_pow]
    omega
  have hlow : n.toUInt16.toNat = n.toNat % 0x10000 := by simp
  have hadd := same_onesAdd (n >>> 16).toUInt16 n.toUInt16
  rw [hhigh, hlow, Nat.add_comm] at hadd
  exact hadd.trans (same_carry n.toNat)

theorem same_onesSum (sum : UInt16) (data : Bytes) : Same (onesSum sum data).toNat (sum.toNat + exactSum data) := by
  fun_induction onesSum sum data with
  | case1 sum => exact Same.refl _
  | case2 sum last =>
    have hlast := last.toNat_lt
    have hadd := same_onesAdd sum (UInt16.ofNat (last.toNat * 0x100))
    rw [UInt16.toNat_ofNat_of_lt' (by show _ < 65536; omega)] at hadd
    exact hadd
  | case3 sum high low rest ih =>
    have hhigh := high.toNat_lt
    have hlow := low.toNat_lt
    have hadd := same_onesAdd sum (UInt16.ofNat (high.toNat * 0x100 + low.toNat))
    rw [UInt16.toNat_ofNat_of_lt' (by show _ < 65536; omega)] at hadd
    rw [exactSum, ← Nat.add_assoc]
    exact ih.trans (hadd.add (Same.refl _))

end Checksum

open Checksum (exactSum onesHalves onesSum)

namespace Assembly

variable {a b : Assembly} {index offset start : Nat} {value : UInt16} {s : Segment}

/-! ## The checksum from a segment on -/

/-- The number of bytes in front of a segment. -/
def position (a : Assembly) (index : Nat) : Nat := size ⟨a.segments.take index⟩

/-- The bytes of a datagram from a segment on. -/
def bytesFrom (a : Assembly) (start : Nat) : Bytes := a.bytes.drop (a.position start)

theorem bytes_take_append (a : Assembly) (start : Nat) :
    a.bytes = bytes ⟨a.segments.take start⟩ ++ (a.drop start).bytes := by
  show a.segments.flatMap _ = (a.segments.take start).flatMap _ ++ (a.segments.drop start).flatMap _
  rw [← List.flatMap_append, List.take_append_drop]

theorem bytesFrom_eq (a : Assembly) (start : Nat) : a.bytesFrom start = (a.drop start).bytes := by
  rw [bytesFrom, position, ← length_bytes, bytes_take_append a start, List.drop_left]

theorem checksumFrom_eq_onesSum (a : Assembly) (start : Nat) (pseudo : UInt32) :
    a.checksumFrom start pseudo.toNat = ~~~ onesSum (onesHalves pseudo) (a.bytesFrom start) := by
  have hreads := (Checksum.Accumulator.reads_addSum pseudo.toNat_lt).addSegments ((a.drop start).segments.map (·.bytes))
  rw [← List.flatMap_def] at hreads
  have hwhole := (Checksum.same_onesSum (onesHalves pseudo) (a.bytesFrom start)).trans
    ((Checksum.same_onesHalves pseudo).add (Checksum.Same.refl _))
  rw [bytesFrom_eq] at hwhole ⊢
  rw [checksumFrom, Checksum.Accumulator.checksum, Checksum.eq_of_same (hreads.same_total.trans hwhole.symm)]

/-! ## Fields -/

/-- A segment is there and may be changed. -/
def Writable (a : Assembly) (index : Nat) : Prop := ∃ s, a.segments[index]? = some s ∧ s.IsOwned

/-- A segment is there, may be changed and has two bytes at an offset. -/
def HasField (a : Assembly) (index offset : Nat) : Prop :=
  ∃ s, a.segments[index]? = some s ∧ s.IsOwned ∧ offset + 2 ≤ s.bytes.length

/-- The datagram with a word in a segment. -/
def setField (a : Assembly) (index offset : Nat) (value : UInt16) : Assembly :=
  ⟨a.segments.modify index fun s => { s with bytes := Bytes.setWord s.bytes offset value }⟩

section Cut

variable {front back : List Segment}

theorem exists_cut (h : a.HasField index offset) : ∃ front s back, a = ⟨front ++ s :: back⟩ ∧ front.length = index ∧
    s.IsOwned ∧ offset + 2 ≤ s.bytes.length := by
  obtain ⟨s, hs, howned, hroom⟩ := h
  obtain ⟨hlt, rfl⟩ := List.getElem?_eq_some_iff.1 hs
  refine ⟨a.segments.take index, _, a.segments.drop (index + 1), ?_, ?_, howned, hroom⟩
  · rw [← List.drop_eq_getElem_cons hlt, List.take_append_drop]
  · rw [List.length_take, Nat.min_eq_left (Nat.le_of_lt hlt)]

theorem setField_cut (front back : List Segment) (s : Segment) (offset : Nat) (value : UInt16) :
    setField ⟨front ++ s :: back⟩ front.length offset value
      = ⟨front ++ { s with bytes := Bytes.setWord s.bytes offset value } :: back⟩ := by
  rw [setField, List.modify_eq_take_drop, List.take_left, List.drop_left, List.modifyHead_cons]

theorem position_cut (front back : List Segment) :
    position ⟨front ++ back⟩ front.length = (front.flatMap (·.bytes)).length := by
  rw [position, List.take_left, ← length_bytes, bytes_mk]

theorem bytesFrom_cut (front back : List Segment) (s : Segment) :
    bytesFrom ⟨front ++ s :: back⟩ front.length = s.bytes ++ back.flatMap (·.bytes) := by
  rw [bytesFrom_eq, drop, List.drop_left, bytes_mk, List.flatMap_cons]

end Cut

theorem putChecksum_of_field (h : a.HasField index offset) (value : UInt16) :
    a.putChecksum index offset value = .ok (a.setField index offset value) := by
  obtain ⟨front, s, back, rfl, rfl, howned, hroom⟩ := exists_cut h
  rw [setField_cut]
  simp [putChecksum, modify?, howned, hroom]

theorem putChecksum_of_no_field (h : ¬ a.HasField index offset) (value : UInt16) :
    a.putChecksum index offset value = .error (.malformed (.noChecksumField index)) := by
  unfold putChecksum modify?
  cases hs : a.segments[index]? with
  | none => rfl
  | some s =>
    by_cases howned : s.IsOwned
    · have hroom : ¬ offset + 2 ≤ s.bytes.length := fun hroom => h ⟨s, hs, howned, hroom⟩
      simp [howned, hroom]
    · simp [howned]

/-- Two bytes of the datagram are overwritten, and they lie behind those of the segments in front. -/
theorem bytes_setField (h : a.HasField index offset) (value : UInt16) :
    (a.setField index offset value).bytes = Bytes.setWord a.bytes (a.position index + offset) value := by
  obtain ⟨front, s, back, rfl, rfl, howned, hroom⟩ := exists_cut h
  rw [setField_cut, position_cut, bytes_mk, bytes_mk, List.flatMap_append, List.flatMap_append, List.flatMap_cons,
    List.flatMap_cons, Bytes.setWord_append_right, Bytes.setWord_append_left hroom]

theorem bytesFrom_setField (h : a.HasField index offset) (value : UInt16) :
    (a.setField index offset value).bytesFrom index = Bytes.setWord (a.bytesFrom index) offset value := by
  obtain ⟨front, s, back, rfl, rfl, howned, hroom⟩ := exists_cut h
  rw [setField_cut, bytesFrom_cut, bytesFrom_cut, Bytes.setWord_append_left hroom]

/-! ## Written into its own segment -/

/-- A checksum in an empty field of the segment it starts from leaves the checksum zero. -/
theorem checksumFrom_setField (h : a.HasField start offset) (heven : offset % 2 = 0)
    (hempty : Bytes.wordAt (a.bytesFrom start) offset = 0) (pseudo : UInt32) :
    (a.setField start offset (a.checksumFrom start pseudo.toNat)).checksumFrom start pseudo.toNat = 0 := by
  have hroom : offset + 2 ≤ (a.bytesFrom start).length := by
    obtain ⟨front, s, back, rfl, rfl, -, hroom⟩ := exists_cut h
    rw [bytesFrom_cut, List.length_append]
    omega
  have hnone : (0 : UInt16).toNat = 0 := rfl
  have hclass (c : Assembly) : Checksum.Same (onesSum (onesHalves pseudo) (c.bytesFrom start)).toNat
      (pseudo.toNat + exactSum (c.bytesFrom start)) :=
    (Checksum.same_onesSum _ _).trans ((Checksum.same_onesHalves pseudo).add (Checksum.Same.refl _))
  -- the checksum completes what was there, and the field held nothing
  have hcompletes := Checksum.completes_not (hclass a)
  rw [← checksumFrom_eq_onesSum] at hcompletes
  have hset := Checksum.exactSum_setWord heven hroom (a.checksumFrom start pseudo.toNat)
  rw [hempty, hnone, Nat.add_zero] at hset
  have hafter := hclass (a.setField start offset (a.checksumFrom start pseudo.toNat))
  rw [bytesFrom_setField h, hset, ← Nat.add_assoc] at hafter
  have hones : onesSum (onesHalves pseudo)
      (Bytes.setWord (a.bytesFrom start) offset (a.checksumFrom start pseudo.toNat)) = 0xffff := by
    obtain ⟨hmod, hzero⟩ := hafter
    obtain ⟨hpos, hdvd⟩ := hcompletes
    have hlt := (onesSum (onesHalves pseudo)
      (Bytes.setWord (a.bytesFrom start) offset (a.checksumFrom start pseudo.toNat))).toNat_lt
    have hvalue : (0xffff : UInt16).toNat = 65535 := rfl
    rw [← UInt16.toNat_inj, hvalue]
    omega
  rw [checksumFrom_eq_onesSum, bytesFrom_setField h, hones]
  rfl

/-! ## Offsets of 64 bits -/

theorem HasField.writable (h : a.HasField index offset) : a.Writable index := by
  obtain ⟨s, hs, howned, -⟩ := h
  exact ⟨s, hs, howned⟩

theorem any_isOwned_iff : (a.segments[index]?.any fun s => s.IsOwned) = true ↔ a.Writable index := by
  simp [Option.any_eq_true, Writable]

section Words

variable {index offset : UInt64}

theorem putChecksum?_of_field (h : a.HasField index.toNat offset.toNat) (hend : offset.toNat + 2 < 0x10000000000000000)
    (value : UInt16) :
    a.putChecksum? index offset value = some (.ok (), a.setField index.toNat offset.toNat value) := by
  have hgoes : ¬ ((a.segments[index.toNat]?.any fun s => s.IsOwned) = true ∧ 0x10000000000000000 ≤ offset.toNat + 2) :=
    fun hstops => Nat.not_le.2 hend hstops.2
  rw [putChecksum?]
  simp only [if_neg hgoes, putChecksum_of_field h value]

theorem putChecksum?_of_no_field (h : ¬ a.HasField index.toNat offset.toNat)
    (hgoes : a.Writable index.toNat → offset.toNat + 2 < 0x10000000000000000) (value : UInt16) :
    a.putChecksum? index offset value = some (.error (.malformed (.noChecksumField index.toNat)), a) := by
  have hgoes : ¬ ((a.segments[index.toNat]?.any fun s => s.IsOwned) = true ∧ 0x10000000000000000 ≤ offset.toNat + 2) :=
    fun hstops => Nat.not_le.2 (hgoes (any_isOwned_iff.1 hstops.1)) hstops.2
  rw [putChecksum?]
  simp only [if_neg hgoes, putChecksum_of_no_field h value]

theorem putChecksum?_eq_none : a.putChecksum? index offset value = none ↔
    a.Writable index.toNat ∧ 0x10000000000000000 ≤ offset.toNat + 2 := by
  rw [← any_isOwned_iff]
  unfold putChecksum?
  simp only
  split
  · rename_i hstops
    simp [hstops]
  · rename_i hgoes
    refine ⟨fun hnone => ?_, fun hstops => absurd hstops hgoes⟩
    split at hnone <;> cases hnone

end Words

/-- The checksum from a segment on is that of RFC 1071, of the sum in front and of all bytes from there on; how these
are cut does not matter, and the machine does not trap over it. Written into an empty field of an owned segment, on a
word boundary, it leaves a datagram that has the checksum zero from there on. A checksum is written if the segment is
there, is owned and has two bytes at the offset; then these two bytes change and no others. Else there is an error and
the datagram stays as it is. At the last two offsets that there are, the end of the field is no number: the program
stops if the segment is owned. -/
theorem seals_itself (a : Assembly) :
    (∀ (start : Nat) (pseudo : UInt32),
      a.checksumFrom start pseudo.toNat = ~~~ onesSum (onesHalves pseudo) (a.bytesFrom start) ∧
      Machine.checksumFrom a start pseudo.toNat = .ok (a.checksumFrom start pseudo.toNat) ∧
      ∀ (b : Assembly) (first : Nat), b.bytesFrom first = a.bytesFrom start →
        b.checksumFrom first pseudo.toNat = a.checksumFrom start pseudo.toNat) ∧
    (∀ (start offset : UInt64) (pseudo : UInt32) (s : Segment), a.segments[start.toNat]? = some s → s.IsOwned →
      offset.toNat % 2 = 0 → offset.toNat + 2 ≤ s.bytes.length → offset.toNat + 2 < 0x10000000000000000 →
      Bytes.wordAt s.bytes offset.toNat = 0 →
      ∃ b, a.putChecksum? start offset (a.checksumFrom start.toNat pseudo.toNat) = some (.ok (), b) ∧
        b.checksumFrom start.toNat pseudo.toNat = 0) ∧
    ∀ (index offset : UInt64) (value : UInt16),
      (offset.toNat + 2 < 0x10000000000000000 →
        (a.HasField index.toNat offset.toNat →
          a.putChecksum? index offset value = some (.ok (), a.setField index.toNat offset.toNat value) ∧
          (a.setField index.toNat offset.toNat value).bytes
            = Bytes.setWord a.bytes (a.position index.toNat + offset.toNat) value) ∧
        (¬ a.HasField index.toNat offset.toNat →
          a.putChecksum? index offset value = some (.error (.malformed (.noChecksumField index.toNat)), a))) ∧
      (0x10000000000000000 ≤ offset.toNat + 2 →
        (a.Writable index.toNat → a.putChecksum? index offset value = none) ∧
        (¬ a.Writable index.toNat →
          a.putChecksum? index offset value = some (.error (.malformed (.noChecksumField index.toNat)), a))) := by
  refine ⟨fun start pseudo => ⟨checksumFrom_eq_onesSum a start pseudo, ?_, ?_⟩, ?_, fun index offset value => ⟨?_, ?_⟩⟩
  · exact Machine.checksumFrom_eq a start pseudo.toNat_lt
  · intro b first hbytes
    rw [checksumFrom_eq_onesSum, checksumFrom_eq_onesSum, hbytes]
  · intro start offset pseudo s hs howned heven hroom hend hempty
    have hfield : a.HasField start.toNat offset.toNat := ⟨s, hs, howned, hroom⟩
    refine ⟨_, putChecksum?_of_field hfield hend _, checksumFrom_setField hfield heven ?_ pseudo⟩
    obtain ⟨hlt, rfl⟩ := List.getElem?_eq_some_iff.1 hs
    rw [bytesFrom_eq, drop, List.drop_eq_getElem_cons hlt, bytes_mk, List.flatMap_cons, Bytes.wordAt_append_left hroom]
    exact hempty
  · intro hend
    exact ⟨fun hfield => ⟨putChecksum?_of_field hfield hend value, bytes_setField hfield value⟩,
      fun hnone => putChecksum?_of_no_field hnone (fun _ => hend) value⟩
  · intro hbeyond
    refine ⟨fun howned => putChecksum?_eq_none.2 ⟨howned, hbeyond⟩, fun hnone => ?_⟩
    exact putChecksum?_of_no_field (fun hfield => hnone hfield.writable) (fun howned => absurd howned hnone) value

/-- A control message, a message of odd size with an empty field, and payload that goes on in the middle of a word. -/
def sample : Assembly :=
  ⟨[⟨.icmp, [3, 3, 0, 0, 0, 0, 0, 0]⟩, ⟨.transport, [1, 2, 0, 0, 5]⟩, ⟨.payload, [6, 0xff]⟩]⟩

theorem seals_itself_sample :
    (∃ b, sample.putChecksum? 1 2 (sample.checksumFrom 1 0xffffffff) = some (.ok (), b) ∧
      b.checksumFrom 1 0xffffffff = 0) ∧
    (sample.HasField 1 2 ∧ sample.putChecksum? 1 2 7 = some (.ok (), sample.setField 1 2 7) ∧
      (sample.setField 1 2 7).bytes = Bytes.setWord sample.bytes (sample.position 1 + 2) 7) ∧
    (¬ sample.HasField 1 4 ∧ sample.putChecksum? 1 4 7 = some (.error (.malformed (.noChecksumField 1)), sample)) ∧
    (sample.Writable 1 ∧ sample.putChecksum? 1 0xfffffffffffffffe 7 = none) ∧
    (¬ sample.Writable 2 ∧
      sample.putChecksum? 2 0xfffffffffffffffe 7 = some (.error (.malformed (.noChecksumField 2)), sample)) := by
  obtain ⟨-, hsealed, hput⟩ := seals_itself sample
  have hfield : sample.HasField 1 2 := ⟨⟨.transport, [1, 2, 0, 0, 5]⟩, rfl, by decide, by decide⟩
  have hnone : ¬ sample.HasField 1 4 := by
    rintro ⟨s, hs, -, hroom⟩
    cases hs
    exact absurd hroom (by decide)
  have howned : sample.Writable 1 := hfield.writable
  have hpayload : ¬ sample.Writable 2 := by
    rintro ⟨s, hs, howned⟩
    cases hs
    exact absurd howned (by decide)
  refine ⟨hsealed 1 2 0xffffffff _ rfl (by decide) (by decide) (by decide) (by decide) (by decide), ⟨hfield, ?_⟩,
    ⟨hnone, ?_⟩, ⟨howned, ?_⟩, hpayload, ?_⟩
  · exact ((hput 1 2 7).1 (by decide)).1 hfield
  · exact ((hput 1 4 7).1 (by decide)).2 hnone
  · exact ((hput 1 0xfffffffffffffffe 7).2 (by decide)).1 howned
  · exact ((hput 2 0xfffffffffffffffe 7).2 (by decide)).2 hpayload

/-- A segment of eight bytes has no field at the last offset of all, and this is not reported. -/
theorem stops_at_last_offset :
    let a := ofList [⟨.icmp, [3, 3, 0, 0, 0, 0, 0, 0]⟩]
    ¬ a.HasField 0 0xffffffffffffffff ∧ a.putChecksum? 0 0xffffffffffffffff 1 = none := by
  intro a
  refine ⟨?_, by decide⟩
  rintro ⟨s, hs, -, hroom⟩
  cases hs
  exact absurd hroom (by decide)

end Assembly

end Nat64
