import Nat64.Proofs.Checksum.Incremental

/-!
# There and back

Up to the two forms of zero, an incremental change is undone by the change back. Which form comes out is settled by the
word put in: if it is not zero, the result is never `0xffff`. A folded pseudo-header is not zero, as it has the protocol
in it, so the round trip gives every checksum back in the form that is not `0xffff`, and UDP then sends its zero as
`0xffff` again.

* `replace_mod`, `toNat_replace_lt`: what `replace` returns, as a number.
* `toNat_replace_back`, `sendable_replace_back`: a change, and the change back.
* `PseudoHeaders.changes_exactly`: between the families, one way and both ways.
-/

namespace Nat64.Checksum

/-! ## Words that are put back -/

section Words

variable {checksum other old new : UInt16}

theorem replace_mod (checksum old new : UInt16) :
    ((replace checksum old new).toNat + new.toNat) % 65535 = (checksum.toNat + old.toNat) % 65535 := by
  have hchecksum := checksum.toNat_lt
  have hold := old.toNat_lt
  obtain ⟨n, hn, hle, hmod, -⟩ := toNat_replace checksum old new
  rw [hn]
  omega

theorem toNat_replace_lt (hnew : new ≠ 0) : (replace checksum old new).toNat < 65535 := by
  have hones : (0xffff : UInt16).toNat = 65535 := rfl
  have hlt := (replace checksum old new).toNat_lt
  have hne : (replace checksum old new).toNat ≠ 65535 := by
    intro h
    rw [← hones, UInt16.toNat_inj] at h
    obtain ⟨-, -, hzero⟩ := eq_ones_of_replace h
    exact hnew hzero
  omega

/-- The change back gives the least number that is the checksum up to multiples of `65535`. -/
theorem toNat_replace_back (hold : old ≠ 0) (h : other.toNat % 65535 = (replace checksum old new).toNat % 65535) :
    (replace other new old).toNat = checksum.toNat % 65535 := by
  have hthere := replace_mod checksum old new
  have hback := replace_mod other new old
  have hlt : (replace other new old).toNat < 65535 := toNat_replace_lt hold
  omega

/-- Only the form of zero is changed before a checksum is sent. -/
theorem sendable_mod (protocol : UInt8) (checksum : UInt16) :
    (sendable protocol checksum).toNat % 65535 = checksum.toNat % 65535 := by
  unfold sendable
  split
  · rename_i h
    rw [h.2]
    rfl
  · rfl

/-- The form in which a checksum comes back. -/
theorem sendable_eq {t : Transport} (hudp : t = .udp → checksum ≠ 0) (h : other.toNat = checksum.toNat % 65535) :
    sendable t.number other = if t = .tcp ∧ checksum = 0xffff then 0 else checksum := by
  have hones : (0xffff : UInt16).toNat = 65535 := rfl
  have hnone : (0 : UInt16).toNat = 0 := rfl
  have hlt := checksum.toNat_lt
  by_cases hc : checksum = 0xffff
  · -- it comes back as zero, which UDP sends in the other form
    have hother : other = 0 := by
      rw [← UInt16.toNat_inj, h, hc]
      rfl
    subst hc hother
    cases t <;> rfl
  · have hother : other = checksum := by
      rw [← UInt16.toNat_inj, hones] at hc
      rw [← UInt16.toNat_inj, h]
      omega
    rw [hother, sendable, if_neg (sends_checksum hudp), if_neg (not_and_of_not_right _ hc)]

/-- A change and the change back, each with its result made ready to be sent. -/
theorem sendable_replace_back {t : Transport} (hold : old ≠ 0) (hudp : t = .udp → checksum ≠ 0) :
    sendable t.number (replace (sendable t.number (replace checksum old new)) new old)
      = if t = .tcp ∧ checksum = 0xffff then 0 else checksum := by
  apply sendable_eq hudp
  apply toNat_replace_back hold
  apply sendable_mod

end Words

theorem StandsFor.fold_ne_zero {sum : Nat} {region : Bytes} (h : StandsFor sum region) (hpos : 0 < exactSum region) :
    fold sum ≠ 0 := by
  intro hzero
  obtain ⟨-, hiff⟩ := (same_fold h.sum_lt).trans h.same
  rw [hzero] at hiff
  have hsum : exactSum region = 0 := hiff.1 rfl
  omega

/-! ## Between the families and back -/

namespace PseudoHeaders

variable {p : PseudoHeaders} {t : Transport} {checksum : UInt16}

theorem fold_sum6_ne_zero (ht : p.protocol = t.number) : fold p.sum6 ≠ 0 := by
  have hlt : p.length.toNat < 0x100000000 := Nat.lt_trans p.length.toNat_lt (by decide)
  have hpos : 0 < p.protocol.toNat := by
    rw [ht]
    exact toNat_number_pos t
  exact (standsFor_pseudoSum6 p.src6 p.dst6 p.protocol hlt).fold_ne_zero (exactSum_pseudoHeader6_pos _ _ hpos hlt)

theorem toIPv4_ne_zero (ht : p.protocol = t.number) (hudp : t = .udp → checksum ≠ 0) :
    t = .udp → p.toIPv4 checksum ≠ 0 := by
  intro h
  rw [toIPv4_of_checksum ht hudp, h]
  exact sendable_udp_ne_zero _

theorem toIPv6?_ne_zero (ht : p.protocol = t.number) (hudp : t = .udp → checksum ≠ 0) :
    t = .udp → p.toIPv6? checksum ≠ some 0 := by
  intro h
  rw [toIPv6?_of_checksum ht hudp, h, ne_eq, Option.some.injEq]
  exact sendable_udp_ne_zero _

/-- From IPv6 to IPv4 and back. -/
theorem toIPv6?_toIPv4 (ht : p.protocol = t.number) (hudp : t = .udp → checksum ≠ 0) :
    p.toIPv6? (p.toIPv4 checksum) = some (if t = .tcp ∧ checksum = 0xffff then 0 else checksum) := by
  rw [toIPv6?_of_checksum ht (toIPv4_ne_zero ht hudp), toIPv4_of_checksum ht hudp,
    sendable_replace_back (fold_sum6_ne_zero ht) hudp]

/-- Moving a checksum between the families is exact. For a message that verifies in one, it gives the checksum that
the message has in the other when it is computed from scratch; from IPv6 to IPv4 and back, every checksum returns as it
was, a TCP checksum of `0xffff` excepted, which returns as zero; and no UDP checksum becomes zero. -/
theorem changes_exactly (p : PseudoHeaders) (t : Transport) (ht : p.protocol = t.number) :
    (∀ message : Bytes, t.checksumOffset + 2 ≤ message.length →
      (t = .udp → Bytes.wordAt message t.checksumOffset ≠ 0) →
      (Verifies (pseudoHeader6 p.src6 p.dst6 t.number p.length.toNat ++ message) →
        p.toIPv4 (Bytes.wordAt message t.checksumOffset)
          = recomputed t (pseudoHeader4 p.src4 p.dst4 t.number p.length.toNat) message) ∧
      (Verifies (pseudoHeader4 p.src4 p.dst4 t.number p.length.toNat ++ message) →
        p.toIPv6? (Bytes.wordAt message t.checksumOffset)
          = some (recomputed t (pseudoHeader6 p.src6 p.dst6 t.number p.length.toNat) message))) ∧
    (∀ checksum : UInt16, (t = .udp → checksum ≠ 0) →
      p.toIPv6? (p.toIPv4 checksum) = some (if t = .tcp ∧ checksum = 0xffff then 0 else checksum)) ∧
    (∀ checksum : UInt16, t = .udp → checksum ≠ 0 → p.toIPv4 checksum ≠ 0 ∧ p.toIPv6? checksum ≠ some 0) := by
  refine ⟨?message, ?back, ?zero⟩
  case message =>
    intro message hlength hudp
    exact ⟨toIPv4_eq ht hlength hudp, toIPv6?_eq ht hlength hudp⟩
  case back =>
    intro checksum hudp
    exact toIPv6?_toIPv4 ht hudp
  case zero =>
    intro checksum h hchecksum
    have hudp : t = .udp → checksum ≠ 0 := fun _ => hchecksum
    exact ⟨toIPv4_ne_zero ht hudp h, toIPv6?_ne_zero ht hudp h⟩

/-- A datagram from `2001:db8::42` to `64:ff9b::203.0.113.9`, which is sent from `100.64.0.7` in IPv4. -/
def samplePseudoHeaders (t : Transport) (length : UInt16) : PseudoHeaders where
  src6 := IPv6.ofNat 0x20010db8000000000000000000000042
  dst6 := IPv6.ofNat 0x0064ff9b0000000000000000cb007109
  src4 := IPv4.ofNat 0x64400007
  dst4 := IPv4.ofNat 0xcb007109
  protocol := t.number
  length := length

/-- The bytes of the datagram, with the checksum it has in IPv6. -/
def sampleMessage6 : Bytes := [0x30, 0x39, 0, 53, 0, 12, 0xc7, 0xc5, 0xde, 0xad, 0xbe, 0xef]

/-- The datagram has another checksum in IPv4, zero comes back to UDP as `0xffff`, and to TCP as zero. -/
theorem changes_exactly_sample :
    (Verifies (pseudoHeader6 (samplePseudoHeaders .udp 12).src6 (samplePseudoHeaders .udp 12).dst6 17 12
        ++ sampleMessage6) ∧
      (samplePseudoHeaders .udp 12).toIPv4 0xc7c5 = 0x9179 ∧
      (samplePseudoHeaders .udp 12).toIPv4 0xc7c5
        = recomputed .udp (pseudoHeader4 (IPv4.ofNat 0x64400007) (IPv4.ofNat 0xcb007109) 17 12) sampleMessage6) ∧
    ((samplePseudoHeaders .udp 12).toIPv6? 0x9179 = some 0xc7c5 ∧
      (samplePseudoHeaders .udp 12).toIPv6? ((samplePseudoHeaders .udp 12).toIPv4 0xffff) = some 0xffff ∧
      (samplePseudoHeaders .udp 12).toIPv4 0xc7c5 ≠ 0) ∧
    (samplePseudoHeaders .tcp 40).toIPv6? ((samplePseudoHeaders .tcp 40).toIPv4 0xffff) = some 0 ∧
    (samplePseudoHeaders .tcp 40).toIPv6? ((samplePseudoHeaders .tcp 40).toIPv4 0x1234) = some 0x1234 := by
  have hverifies : Verifies (pseudoHeader6 (samplePseudoHeaders .udp 12).src6 (samplePseudoHeaders .udp 12).dst6 17 12
      ++ sampleMessage6) := by rfl
  obtain ⟨hmessage, hback, hzero⟩ := changes_exactly (samplePseudoHeaders .udp 12) .udp rfl
  obtain ⟨-, hback', -⟩ := changes_exactly (samplePseudoHeaders .tcp 40) .tcp rfl
  obtain ⟨hmoved, -⟩ := hmessage sampleMessage6 (by decide) (by decide)
  exact ⟨⟨hverifies, by rfl, hmoved hverifies⟩, ⟨by rfl, hback 0xffff (by decide), (hzero 0xc7c5 rfl (by decide)).1⟩,
    hback' 0xffff (by decide), hback' 0x1234 (by decide)⟩

end PseudoHeaders

end Nat64.Checksum
