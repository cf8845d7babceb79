import Nat64.Proofs.Checksum.Verification
import Nat64.Proofs.Header

/-!
# Incremental change

A message that moves to another pseudo-header need not be read again: if its checksum verified under the old one, the
change in the pseudo-header alone gives the checksum that the whole message has under the new one, bit for bit. The two
forms of zero cannot be mixed up, because no pseudo-header adds up to zero.

* `recomputed`: the checksum of a whole message, from scratch.
* `mod_replace`, `eq_ofBytes`: the incremental change of a word keeps the sum of the data and the checksum, and which
  checksum that leaves.
* `replace_eq_ofBytes`: the incremental change, for any two regions that are summed in front of a message.
* `PseudoHeaders.toIPv4_eq`, `PseudoHeaders.toIPv6?_eq`: between the families.
-/

namespace Nat64.Checksum

variable {front front' message : Bytes} {offset old new : Nat}

/-- The checksum under a pseudo-header of a whole TCP or UDP message, whatever its checksum field holds. -/
def recomputed (t : Transport) (pseudo message : Bytes) : UInt16 :=
  sendable t.number (ofBytes (pseudo ++ Bytes.setWord message t.checksumOffset 0))

theorem recomputed_setWord {t : Transport} (h : t.checksumOffset + 2 ≤ message.length) (pseudo : Bytes) (w : UInt16) :
    recomputed t pseudo (Bytes.setWord message t.checksumOffset w) = recomputed t pseudo message := by
  rw [recomputed, Bytes.setWord_setWord h, recomputed]

/-- Written into its field, it makes the message verify. -/
theorem verifies_recomputed {t : Transport} {sum : Nat} (hfront : StandsFor sum front)
    (h : t.checksumOffset + 2 ≤ message.length) :
    Verifies (front ++ Bytes.setWord message t.checksumOffset (recomputed t front message)) := by
  have hlength := Bytes.length_setWord h 0
  rw [← Bytes.setWord_setWord h 0]
  exact verifies_setWord hfront t.checksumOffset_even (by omega) (Bytes.wordAt_setWord h 0)
    ((hfront.completes _).sendable _)

/-- What UDP sends for a checksum is never taken for the lack of one. -/
theorem sendable_udp_ne_zero (checksum : UInt16) : sendable Transport.udp.number checksum ≠ 0 := by
  unfold sendable
  split
  · decide
  · rename_i hzero
    exact fun he => hzero ⟨rfl, he⟩

theorem recomputed_udp_ne_zero (pseudo message : Bytes) : recomputed .udp pseudo message ≠ 0 := sendable_udp_ne_zero _

theorem same_not_fold (h : old < 0x100000000) : ∃ n, (~~~ fold old).toNat = 65535 - n ∧ n ≤ 65535 ∧ Same n old := by
  have hword := (fold old).toNat_lt
  have hsize : UInt16.size = 65536 := rfl
  refine ⟨(fold old).toNat, ?_, by omega, same_fold h⟩
  rw [UInt16.toNat_not, hsize]

/-! ## Words that are replaced -/

section Words

variable {checksum old new : UInt16}

theorem toNat_replace (checksum old new : UInt16) : ∃ n, (replace checksum old new).toNat = 65535 - n ∧ n ≤ 65535 ∧
    Same n (65535 - checksum.toNat + (65535 - old.toNat) + new.toNat) := by
  have hnew := new.toNat_lt
  have hnot (w : UInt16) : (~~~ w).toNat = 65535 - w.toNat := by
    rw [UInt16.toNat_not]
    rfl
  rw [← hnot checksum, ← hnot old]
  exact same_not_fold (by
    rw [hnot, hnot]
    omega)

/-- What added up to zero before a word was replaced adds up to zero after it. -/
theorem mod_replace {rest : Nat} (h : (rest + (old.toNat + checksum.toNat)) % 65535 = 0) :
    (rest + (new.toNat + (replace checksum old new).toNat)) % 65535 = 0 := by
  have hchecksum := checksum.toNat_lt
  have hold := old.toNat_lt
  obtain ⟨n, hn, hle, hmod, -⟩ := toNat_replace checksum old new
  rw [hn]
  omega

/-- The other form of zero comes of nothing but itself. -/
theorem eq_ones_of_replace (h : replace checksum old new = 0xffff) :
    checksum = 0xffff ∧ old = 0xffff ∧ new = 0 := by
  have hones : (0xffff : UInt16).toNat = 65535 := rfl
  have hnone : (0 : UInt16).toNat = 0 := rfl
  have hchecksum := checksum.toNat_lt
  have hold := old.toNat_lt
  obtain ⟨n, hn, hle, -, hzero⟩ := toNat_replace checksum old new
  rw [h, hones] at hn
  have hsum := hzero.1 (by omega)
  simp only [← UInt16.toNat_inj, hones, hnone]
  omega

/-- If there is something to add up, only the checksum from scratch brings the sum to zero
without the other form of it. -/
theorem eq_ofBytes {data : Bytes} (hones : checksum ≠ 0xffff) (hmod : (exactSum data + checksum.toNat) % 65535 = 0)
    (hpos : 0 < exactSum data) : checksum = ofBytes data := by
  have hvalue : (0xffff : UInt16).toNat = 65535 := rfl
  have hlt := checksum.toNat_lt
  obtain ⟨n, hn, hle, hsame⟩ := same_not_fold (Nat.lt_trans (wordSum_lt data) (by decide))
  obtain ⟨hmodn, hzeron⟩ := hsame.trans (same_wordSum data)
  rw [ne_eq, ← UInt16.toNat_inj, hvalue] at hones
  rw [← UInt16.toNat_inj, ofBytes, hn]
  omega

end Words

/-! ## Regions that are replaced -/

/-- What is added in an incremental change: what the checksum stood for, less the old region, and the new one. -/
theorem same_replaced {checksum : UInt16} {rest n n' : Nat} (hold : old < 0x100000000) (hnew : new < 0x100000000)
    (hsame : Same old n) (hsame' : Same new n') (hpos : 0 < n')
    (hverifies : (n + (rest + checksum.toNat)) % 65535 = 0) :
    Same ((~~~ checksum).toNat + (~~~ fold old).toNat + (fold new).toNat) (n' + rest) := by
  obtain ⟨k, hk, hle, hsamek⟩ := same_not_fold hold
  obtain ⟨hmod, -⟩ := hsamek.trans hsame
  obtain ⟨hmod', hzero'⟩ := (same_fold hnew).trans hsame'
  have hchecksum := checksum.toNat_lt
  have hsize : UInt16.size = 65536 := rfl
  rw [hk, UInt16.toNat_not, hsize]
  constructor <;> omega

/-- If a message verifies behind the old region, the incremental change gives its checksum behind the new one. -/
theorem replace_eq_ofBytes (hold : StandsFor old front) (hnew : StandsFor new front') (hpos : 0 < exactSum front')
    (hoffset : offset % 2 = 0) (hlength : offset + 2 ≤ message.length) (hverifies : Verifies (front ++ message)) :
    replace (Bytes.wordAt message offset) (fold old) (fold new)
      = ofBytes (front' ++ Bytes.setWord message offset 0) := by
  have hzero : (0 : UInt16).toNat = 0 := rfl
  have hempty := exactSum_setWord hoffset hlength 0
  have hmod := (verifies_iff.1 hverifies).2
  rw [hzero, Nat.add_zero] at hempty
  rw [exactSum_append hold.even, ← hempty] at hmod
  have hreplaced := same_replaced hold.sum_lt hnew.sum_lt hold.same hnew.same hpos hmod
  have hwhole := same_wordSum (front' ++ Bytes.setWord message offset 0)
  rw [exactSum_append hnew.even] at hwhole
  have hlt := wordSum_lt (front' ++ Bytes.setWord message offset 0)
  have hchecksum := (~~~ Bytes.wordAt message offset).toNat_lt
  have hold' := (~~~ fold old).toNat_lt
  have hnew' := (fold new).toNat_lt
  rw [replace, ofBytes, fold_eq_of_same (hreplaced.trans hwhole.symm) (by omega) (by omega)]

/-! ## Between the families -/

section Positive

variable {protocol : UInt8} {n : Nat}

theorem exactSum_pseudoHeader4_pos (src dst : IPv4) (hprotocol : 0 < protocol.toNat) (h : n < 0x10000) :
    0 < exactSum (pseudoHeader4 src dst protocol n) := by
  rw [exactSum_pseudoHeader4 src dst protocol h]
  omega

theorem exactSum_pseudoHeader6_pos (src dst : IPv6) (hprotocol : 0 < protocol.toNat) (h : n < 0x100000000) :
    0 < exactSum (pseudoHeader6 src dst protocol n) := by
  rw [exactSum_pseudoHeader6 src dst protocol h]
  omega

theorem toNat_number_pos (t : Transport) : 0 < t.number.toNat := by
  cases t <;> decide

end Positive

/-- A message without a checksum is not taken for one with it. -/
theorem sends_checksum {t : Transport} {checksum : UInt16} (hudp : t = .udp → checksum ≠ 0) :
    ¬ (t.number = Transport.udp.number ∧ checksum = 0) := by
  rintro ⟨ht, hzero⟩
  cases t with
  | tcp => cases ht
  | udp => exact hudp rfl hzero

namespace PseudoHeaders

variable {p : PseudoHeaders} {t : Transport} {checksum : UInt16}

theorem toIPv4_of_checksum (ht : p.protocol = t.number) (hudp : t = .udp → checksum ≠ 0) :
    p.toIPv4 checksum = sendable t.number (replace checksum (fold p.sum6) (fold p.sum4)) := by
  rw [toIPv4, ht, if_neg (sends_checksum hudp)]

theorem toIPv6?_of_checksum (ht : p.protocol = t.number) (hudp : t = .udp → checksum ≠ 0) :
    p.toIPv6? checksum = some (sendable t.number (replace checksum (fold p.sum4) (fold p.sum6))) := by
  rw [toIPv6?, ht, if_neg (sends_checksum hudp)]

/-- The checksum that a message from IPv6 gets under IPv4 is that of the whole message. -/
theorem toIPv4_eq (ht : p.protocol = t.number) (hlength : t.checksumOffset + 2 ≤ message.length)
    (hudp : t = .udp → Bytes.wordAt message t.checksumOffset ≠ 0)
    (hverifies : Verifies (pseudoHeader6 p.src6 p.dst6 t.number p.length.toNat ++ message)) :
    p.toIPv4 (Bytes.wordAt message t.checksumOffset)
      = recomputed t (pseudoHeader4 p.src4 p.dst4 t.number p.length.toNat) message := by
  have hlt : p.length.toNat < 0x10000 := p.length.toNat_lt
  have hlt' : p.length.toNat < 0x100000000 := Nat.lt_trans hlt (by decide)
  rw [toIPv4_of_checksum ht hudp, recomputed, sum6, sum4, ht,
    replace_eq_ofBytes (standsFor_pseudoSum6 _ _ _ hlt') (standsFor_pseudoSum4 _ _ _ hlt)
      (exactSum_pseudoHeader4_pos _ _ (toNat_number_pos t) hlt) t.checksumOffset_even hlength hverifies]

/-- The checksum that a message from IPv4 gets under IPv6 is that of the whole message. -/
theorem toIPv6?_eq (ht : p.protocol = t.number) (hlength : t.checksumOffset + 2 ≤ message.length)
    (hudp : t = .udp → Bytes.wordAt message t.checksumOffset ≠ 0)
    (hverifies : Verifies (pseudoHeader4 p.src4 p.dst4 t.number p.length.toNat ++ message)) :
    p.toIPv6? (Bytes.wordAt message t.checksumOffset)
      = some (recomputed t (pseudoHeader6 p.src6 p.dst6 t.number p.length.toNat) message) := by
  have hlt : p.length.toNat < 0x10000 := p.length.toNat_lt
  have hlt' : p.length.toNat < 0x100000000 := Nat.lt_trans hlt (by decide)
  rw [toIPv6?_of_checksum ht hudp, recomputed, sum6, sum4, ht,
    replace_eq_ofBytes (standsFor_pseudoSum4 _ _ _ hlt) (standsFor_pseudoSum6 _ _ _ hlt')
      (exactSum_pseudoHeader6_pos _ _ (toNat_number_pos t) hlt') t.checksumOffset_even hlength hverifies]

end PseudoHeaders

end Nat64.Checksum
