import Nat64.Proofs.Checksum

/-!
# Checksums that verify

A receiver adds up the words of what it got, the checksum among them, and accepts if they fold to `0xffff`. In front of
TCP, UDP and ICMPv6 messages it puts a pseudo-header that is never sent.

* `Verifies`, `verifies_iff`: the receiver's check, and what it says about the exact sum.
* `verifies_setWord`: a word that completes the sum makes the check succeed wherever it is put.
* `pseudoHeader4`, `pseudoHeader6`: the pseudo-headers as bytes, and the sums that stand for them.
-/

namespace Nat64.Checksum

/-- The check of a receiver. -/
def Verifies (data : Bytes) : Prop := fold (wordSum data) = 0xffff

/-- A word brings a sum to one that a receiver accepts. -/
def Completes (checksum : UInt16) (n : Nat) : Prop := 0 < n + checksum.toNat ∧ (n + checksum.toNat) % 65535 = 0

variable {data front : Bytes} {offset n : Nat} {checksum : UInt16}

theorem verifies_iff : Verifies data ↔ 0 < exactSum data ∧ exactSum data % 65535 = 0 := by
  have hlt := wordSum_lt data
  have hsame : Same (fold (wordSum data)).toNat (exactSum data) := (same_fold (by omega)).trans (same_wordSum data)
  have hword := (fold (wordSum data)).toNat_lt
  have hones : (0xffff : UInt16).toNat = 65535 := rfl
  obtain ⟨hmod, hzero⟩ := hsame
  rw [Verifies, ← UInt16.toNat_inj, hones]
  omega

/-! ## Completing a sum -/

theorem completes_not {total : UInt16} (h : Same total.toNat n) : Completes (~~~ total) n := by
  have htotal := total.toNat_lt
  obtain ⟨hmod, hzero⟩ := h
  have hsize : UInt16.size = 65536 := rfl
  rw [Completes, UInt16.toNat_not, hsize]
  omega

theorem Completes.of_same {m : Nat} (h : Completes checksum n) (hsame : Same n m) : Completes checksum m := by
  obtain ⟨hpos, hmod⟩ := h
  obtain ⟨hsame, hzero⟩ := hsame
  constructor <;> omega

/-- The checksum of some bytes completes their sum. -/
theorem completes_ofBytes (data : Bytes) : Completes (ofBytes data) (exactSum data) := by
  have hlt := wordSum_lt data
  exact completes_not ((same_fold (by omega)).trans (same_wordSum data))

/-- Sending the other form of zero does no harm. -/
theorem Completes.sendable (h : Completes checksum n) (protocol : UInt8) :
    Completes (sendable protocol checksum) n := by
  unfold Checksum.sendable
  split
  · rename_i hzero
    rw [hzero.2] at h
    have hones : (0xffff : UInt16).toNat = 65535 := rfl
    have hnone : (0 : UInt16).toNat = 0 := rfl
    unfold Completes at h ⊢
    rw [hnone] at h
    rw [hones]
    omega
  · exact h

theorem exactSum_ofWord (w : UInt16) : exactSum (Bytes.ofWord w) = w.toNat := by
  have hw := w.toNat_lt
  simp only [Bytes.ofWord, Bytes.ofNat, exactSum, UInt8.toNat_ofNat']
  omega

/-- A field on a word boundary counts as itself. -/
theorem exactSum_field {word : Bytes} (hfront : front.length % 2 = 0) (hword : word.length = 2) (rest : Bytes) :
    exactSum (front ++ (word ++ rest)) = exactSum front + (exactSum word + exactSum rest) := by
  rw [exactSum_append hfront, exactSum_append (by rw [hword])]

theorem exactSum_setWord (hoffset : offset % 2 = 0) (hlength : offset + 2 ≤ data.length) (w : UInt16) :
    exactSum (Bytes.setWord data offset w) + (Bytes.wordAt data offset).toNat = exactSum data + w.toNat := by
  have hfront : (data.take offset).length % 2 = 0 := by
    rw [List.length_take]
    omega
  have hset (w : UInt16) : exactSum (Bytes.setWord data offset w)
      = exactSum (data.take offset) + (w.toNat + exactSum (data.drop (offset + 2))) := by
    rw [Bytes.setWord, List.append_assoc, exactSum_field hfront (Bytes.length_ofWord w), exactSum_ofWord]
  have hdata := hset (Bytes.wordAt data offset)
  rw [Bytes.setWord_wordAt hlength] at hdata
  rw [hset w, hdata]
  omega

/-- A sum that was computed elsewhere stands for a region of whole words. -/
structure StandsFor (sum : Nat) (region : Bytes) : Prop where
  sum_lt : sum < 0x100000000
  same : Same sum (exactSum region)
  even : region.length % 2 = 0

theorem standsFor_nil : StandsFor 0 [] := ⟨by decide, Same.refl 0, rfl⟩

theorem StandsFor.completes (h : StandsFor n front) (data : Bytes) :
    Completes (ofBytes (front ++ data)) (n + exactSum data) := by
  have hwhole := completes_ofBytes (front ++ data)
  rw [exactSum_append h.even] at hwhole
  exact hwhole.of_same (h.same.symm.add (Same.refl _))

/-- The checksum of a stream is that of its bytes. -/
theorem StandsFor.checksum_addSegments (h : StandsFor n front) (segments : List Bytes) :
    ((Accumulator.addSum {} n).addSegments segments).checksum = ofBytes (front ++ segments.flatten) := by
  have hreads := ((Accumulator.reads_addSum h.sum_lt).addSegments segments).same_total
  have hlt := wordSum_lt (front ++ segments.flatten)
  have hwhole := (same_fold (by omega)).trans (same_wordSum (front ++ segments.flatten))
  rw [exactSum_append h.even] at hwhole
  have hsame := hreads.trans ((h.same.add (Same.refl _)).trans hwhole.symm)
  rw [Accumulator.checksum, ofBytes, eq_of_same hsame]

/-- The right word in an empty field makes the check succeed. -/
theorem verifies_setWord (hfront : StandsFor n front) (hoffset : offset % 2 = 0) (hlength : offset + 2 ≤ data.length)
    (hempty : Bytes.wordAt data offset = 0) (h : Completes checksum (n + exactSum data)) :
    Verifies (front ++ Bytes.setWord data offset checksum) := by
  have hset := exactSum_setWord hoffset hlength checksum
  have hnone : (0 : UInt16).toNat = 0 := rfl
  rw [hempty, hnone, Nat.add_zero] at hset
  rw [verifies_iff, exactSum_append hfront.even, hset, ← Nat.add_assoc]
  exact h.of_same (hfront.same.add (Same.refl _))

/-! ## Pseudo-headers -/

/-- The IPv4 pseudo-header of a message of `length` bytes. -/
def pseudoHeader4 (src dst : IPv4) (protocol : UInt8) (length : Nat) : Bytes :=
  src.octets ++ (dst.octets ++ ([0, protocol] ++ Bytes.ofNat 2 length))

/-- The IPv6 pseudo-header of a message of `length` bytes. -/
def pseudoHeader6 (src dst : IPv6) (protocol : UInt8) (length : Nat) : Bytes :=
  src.octets ++ (dst.octets ++ (Bytes.ofNat 4 length ++ [0, 0, 0, protocol]))

section PseudoHeader

theorem length_pseudoHeader4 (src dst : IPv4) (protocol : UInt8) : (pseudoHeader4 src dst protocol n).length = 12 := by
  simp [pseudoHeader4]

theorem length_pseudoHeader6 (src dst : IPv6) (protocol : UInt8) : (pseudoHeader6 src dst protocol n).length = 40 := by
  simp [pseudoHeader6]

theorem exactSum_pseudoHeader4 (src dst : IPv4) (protocol : UInt8) (h : n < 0x10000) :
    exactSum (pseudoHeader4 src dst protocol n) = exactSum src.octets + exactSum dst.octets + protocol.toNat + n := by
  have htail : exactSum ([0, protocol] ++ Bytes.ofNat 2 n) = protocol.toNat + n := by
    simp only [List.cons_append, List.nil_append, Bytes.ofNat, exactSum, UInt8.toNat_ofNat', UInt8.toNat_zero]
    omega
  rw [pseudoHeader4, exactSum_append (by simp), exactSum_append (by simp), htail]
  omega

theorem exactSum_pseudoHeader6 (src dst : IPv6) (protocol : UInt8) (h : n < 0x100000000) :
    exactSum (pseudoHeader6 src dst protocol n)
      = exactSum src.octets + exactSum dst.octets + (n / 0x10000 + n % 0x10000) + protocol.toNat := by
  have htail : exactSum (Bytes.ofNat 4 n ++ [0, 0, 0, protocol]) = n / 0x10000 + n % 0x10000 + protocol.toNat := by
    simp only [List.cons_append, List.nil_append, Bytes.ofNat, exactSum, UInt8.toNat_ofNat', UInt8.toNat_zero]
    omega
  rw [pseudoHeader6, exactSum_append (by simp), exactSum_append (by simp), htail]
  omega

theorem standsFor_pseudoSum4 (src dst : IPv4) (protocol : UInt8) (h : n < 0x10000) :
    StandsFor (pseudoSum4 src dst protocol n) (pseudoHeader4 src dst protocol n) where
  sum_lt := by
    have hsrc := wordSum_le src.octets
    have hdst := wordSum_le dst.octets
    have hprotocol := protocol.toNat_lt
    rw [IPv4.length_octets] at hsrc hdst
    unfold pseudoSum4
    omega
  same := by
    rw [exactSum_pseudoHeader4 src dst protocol h]
    exact (((same_wordSum _).add (same_wordSum _)).add (Same.refl _)).add (Same.refl n)
  even := by rw [length_pseudoHeader4]

theorem standsFor_pseudoSum6 (src dst : IPv6) (protocol : UInt8) (h : n < 0x100000000) :
    StandsFor (pseudoSum6 src dst protocol n) (pseudoHeader6 src dst protocol n) where
  sum_lt := by
    have hsrc := wordSum_le src.octets
    have hdst := wordSum_le dst.octets
    have hprotocol := protocol.toNat_lt
    rw [IPv6.length_octets] at hsrc hdst
    unfold pseudoSum6
    omega
  same := by
    rw [exactSum_pseudoHeader6 src dst protocol h]
    exact (((same_wordSum _).add (same_wordSum _)).add (Same.refl _)).add (Same.refl _)
  even := by rw [length_pseudoHeader6]

end PseudoHeader

end Nat64.Checksum
