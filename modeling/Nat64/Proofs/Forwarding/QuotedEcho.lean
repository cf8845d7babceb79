import Nat64.Proofs.Forwarding.Errors

/-!
# Checksums of quoted echo messages

An echo message that is quoted whole is carried over with a checksum that was changed twice: for its type, and for the
pseudo-header that control messages have in IPv6 only. It is the checksum that the message would get from scratch,
unless nothing but zeros is left to add up, as in an IPv4 reply whose identifier, number and data are zero. Its checksum
from scratch is `0xffff`, the changes give the other form of zero, and no receiver accepts that.

* `CarriesEcho`, `QuotesEcho`: a datagram with a whole echo message, and an error that quotes one.
* `Icmp.Echo.verifies_iff_pos`: what tells the forms of zero apart.
* `requoted_echo`: both changes, for any two regions that are summed in front of a message.
* `Gateway.quoted_echo`: in both directions.
-/

namespace Nat64

/-- A buffer of a family opens with a datagram that carries an echo message, behind a pseudo-header in IPv6. -/
def CarriesEcho : Family → Bytes → Icmp.Echo → Bytes → Bytes → Prop
  | .ipv4, datagram, e, pseudo, message => ∃ h, IPv4.Opens datagram h message ∧
    h.protocol = (Protocol.icmp .ipv4).number ∧ pseudo = [] ∧ (Cargo.echo e).Complete .ipv4 message
  | .ipv6, datagram, e, pseudo, message => ∃ h, IPv6.Opens datagram h message ∧
    h.nextHeader = (Protocol.icmp .ipv6).number ∧
    pseudo = Checksum.pseudoHeader6 h.src h.dst (Protocol.icmp .ipv6).number message.length ∧
    (Cargo.echo e).Complete .ipv6 message

/-- An error of a family, built here without options, quotes a datagram that carries an echo message. -/
def QuotesEcho : Family → Bytes → Icmp.Echo → Bytes → Bytes → Prop
  | .ipv4, packet => CarriesEcho .ipv4 (packet.drop 28)
  | .ipv6, packet => CarriesEcho .ipv6 (packet.drop 48)

/-! ## Two forms of zero -/

namespace Icmp

open Checksum

variable {family : Family} {e : Echo} {front rest message : Bytes} {checksum : UInt16}

theorem Echo.exactSum_bytes (family : Family) (e : Echo) (checksum : UInt16) (rest : Bytes) :
    exactSum (e.bytes family checksum rest) = (e.type family).toNat * 0x100 + checksum.toNat + exactSum rest := by
  have hopening : exactSum [e.type family, 0] = (e.type family).toNat * 0x100 := by simp [exactSum]
  have heven : [e.type family, 0].length % 2 = 0 := by simp
  rw [bytes, exactSum_field heven (Bytes.length_ofWord checksum), exactSum_ofWord, hopening, Nat.add_assoc]

/-- Only a reply of zeros is all zeros in IPv4. -/
theorem Echo.exactSum_eq_zero : exactSum (e.bytes .ipv4 0 rest) = 0 ↔ e = .reply ∧ ∀ b ∈ rest, b = 0 := by
  have hzero : (0 : UInt16).toNat = 0 := rfl
  rw [exactSum_bytes, hzero, ← Checksum.exactSum_eq_zero]
  cases e <;> simp [type]

/-- The header of a message counts as its first two words. -/
theorem Header.exactSum_message (h : 4 ≤ message.length) :
    exactSum message
      = (ofBytes message).opening.toNat + (ofBytes message).checksum.toNat + exactSum (message.drop 4) := by
  match message, h with
  | type :: code :: high :: low :: rest, _ =>
    have htype := type.toNat_lt
    have hcode := code.toNat_lt
    have hhigh := high.toNat_lt
    have hlow := low.toNat_lt
    simp [ofBytes, opening, Bytes.byteAt, Bytes.wordAt, Bytes.slice, Bytes.toNat, exactSum]
    omega

theorem Echo.opening_ne_ones (h : Bytes.byteAt message 0 = e.type family) :
    (Header.ofBytes message).opening ≠ 0xffff := by
  have hcode := (Bytes.byteAt message 1).toNat_lt
  have htype : (e.type family).toNat ≤ 129 := by cases family <;> cases e <;> decide
  intro hones
  have hword : (UInt16.ofNat ((Bytes.byteAt message 0).toNat * 0x100 + (Bytes.byteAt message 1).toNat)).toNat = 65535 :=
    congrArg UInt16.toNat hones
  rw [h, UInt16.toNat_ofNat'] at hword
  omega

/-- Among the words that bring a sum to zero, a receiver rejects one only if there is nothing to add up. -/
theorem Echo.verifies_iff_pos (hfront : front.length % 2 = 0) (hones : checksum ≠ 0xffff)
    (hmod : (exactSum (front ++ e.bytes family 0 rest) + checksum.toNat) % 65535 = 0) :
    Verifies (front ++ e.bytes family checksum rest) ↔ 0 < exactSum (front ++ e.bytes family 0 rest) := by
  have hvalue : (0xffff : UInt16).toNat = 65535 := rfl
  have hzero : (0 : UInt16).toNat = 0 := rfl
  have hlt := checksum.toNat_lt
  rw [ne_eq, ← UInt16.toNat_inj, hvalue] at hones
  rw [exactSum_append hfront, exactSum_bytes, hzero] at hmod ⊢
  rw [verifies_iff, exactSum_append hfront, exactSum_bytes]
  omega

end Icmp

/-! ## Both changes -/

namespace Forwarding

open Checksum

variable {family : Family} {e : Icmp.Echo} {front front' message : Bytes} {n n' : Nat}

/-- If an echo message verifies behind the old region, the changes bring its sum to zero behind the new one, and never
to the form that only an empty sum has. -/
theorem requoted_echo (hold : StandsFor n front) (hnew : StandsFor n' front')
    (hshows : (Cargo.echo e).Shows family message) (hverifies : Verifies (front ++ message)) (family' : Family) :
    let rest := message.drop 4
    ∃ checksum, (Cargo.echo e).requoted family' (fun old => replace old (fold n) (fold n')) message
        = e.bytes family' checksum rest ∧ checksum ≠ 0xffff ∧
      (exactSum (front' ++ e.bytes family' 0 rest) + checksum.toNat) % 65535 = 0 := by
  obtain ⟨hlength, htype⟩ := hshows
  let h := Icmp.Header.ofBytes message
  let rest := message.drop 4
  let opening := UInt16.ofNat ((e.type family').toNat * 0x100)
  let moved := replace h.checksum h.opening opening
  have hzero : (0 : UInt16).toNat = 0 := rfl
  have hopening : opening.toNat = (e.type family').toNat * 0x100 := by
    have hbyte := (e.type family').toNat_lt
    exact UInt16.toNat_ofNat'.trans (Nat.mod_eq_of_lt (by omega))
  obtain ⟨hmodn, -⟩ := (same_fold hold.sum_lt).trans hold.same
  obtain ⟨hmodn', -⟩ := (same_fold hnew.sum_lt).trans hnew.same
  -- each change trades one word of the sum for another
  have hreceived : (exactSum front + exactSum rest + (h.opening.toNat + h.checksum.toNat)) % 65535 = 0 := by
    have hsum := (verifies_iff.1 hverifies).2
    have hmessage : exactSum message = h.opening.toNat + h.checksum.toNat + exactSum rest :=
      Icmp.Header.exactSum_message (by omega)
    rw [exactSum_append hold.even, hmessage] at hsum
    omega
  have hmoved : (exactSum front + exactSum rest + (opening.toNat + moved.toNat)) % 65535 = 0 := mod_replace hreceived
  have hfolded : (opening.toNat + exactSum rest + ((fold n).toNat + moved.toNat)) % 65535 = 0 := by omega
  let settled := replace moved (fold n) (fold n')
  have hsettled : (opening.toNat + exactSum rest + ((fold n').toNat + settled.toNat)) % 65535 = 0 := mod_replace hfolded
  refine ⟨settled, rfl, ?_, ?_⟩
  · intro hones
    exact Icmp.Echo.opening_ne_ones htype (eq_ones_of_replace (eq_ones_of_replace hones).1).2.1
  · rw [exactSum_append hnew.even, Icmp.Echo.exactSum_bytes, hzero, ← hopening]
    show (exactSum front' + (opening.toNat + 0 + exactSum rest) + settled.toNat) % 65535 = 0
    omega

section Directions

variable {p : Prefix} {now : Nat} {t t' : LeaseTable} {datagram packet pseudo : Bytes} {d : Datagram}

theorem quotesEcho_toIPv4 (hcarries : CarriesEcho .ipv6 datagram e pseudo message)
    (hverifies : Verifies (pseudo ++ message))
    (hquotes : Quotes .ipv6 packet datagram) (h : toIPv4 p now packet t = (.ok (.forward d), t')) :
    let rest := message.drop 4
    ∃ checksum, QuotesEcho .ipv4 d.body.bytes e [] (e.bytes .ipv4 checksum rest) ∧ checksum ≠ 0xffff ∧
      (exactSum (e.bytes .ipv4 0 rest) + checksum.toNat) % 65535 = 0 := by
  obtain ⟨original, hopens, hnumber, rfl, hcomplete⟩ := hcarries
  obtain ⟨inner, cargo, dst, hinner, hcargo, hshows, hfits, hbytes⟩ := quotation_ipv4 (errorInIPv4_of_forward hquotes h)
  rw [hopens.header_eq, Except.ok.injEq] at hinner
  subst hinner
  have hmessage : Bytes.slice datagram 40 original.payloadLength.toNat = message := by
    rw [hopens.length_eq]
    exact hopens.message_eq
  rw [hmessage] at hshows hbytes
  cases Cargo.eq_echo (hnumber.symm.trans hcargo) hshows hcomplete.2
  rw [← hopens.length_eq] at hverifies
  have hold := standsFor_pseudoSum6 original.src original.dst (Protocol.icmp .ipv6).number
    (Nat.lt_trans original.payloadLength.toNat_lt (by decide))
  obtain ⟨checksum, hrequoted, hones, hmod⟩ := requoted_echo hold standsFor_nil hcomplete hverifies .ipv4
  have hquoted : (Cargo.echo e).requoted .ipv4 ((Cargo.echo e).adjust4 original (p.extract original.src) dst) message
      = e.bytes .ipv4 checksum (message.drop 4) := hrequoted
  rw [hquoted, hopens.length_eq] at hbytes
  rw [hopens.length_eq] at hfits
  have hlength := hcomplete.1
  have hsize := Icmp.Echo.length_bytes (Nat.le_trans (by decide) hlength) .ipv4 e checksum
  let header :=
    original.inIPv4 (Protocol.icmp .ipv4).number original.hopLimit message.length (p.extract original.src) dst
  refine ⟨checksum, ⟨header.header, ?_, rfl, rfl, ⟨by omega, rfl⟩⟩, hones, hmod⟩
  rw [hbytes]
  refine IPv4.HeaderFields.opens ?_
  rw [hsize]
  exact UInt16.toNat_ofNat'.trans (Nat.mod_eq_of_lt (by omega))

theorem quotesEcho_toIPv6 (hcarries : CarriesEcho .ipv4 datagram e pseudo message)
    (hverifies : Verifies (pseudo ++ message))
    (hquotes : Quotes .ipv4 packet datagram) (hwhole : 88 + message.length ≤ minimumMtu)
    (h : toIPv6 p now packet t = (.ok (.forward d), t')) :
    let rest := message.drop 4
    ∃ checksum src dst,
      let front := pseudoHeader6 src dst (Protocol.icmp .ipv6).number message.length
      QuotesEcho .ipv6 d.body.bytes e front (e.bytes .ipv6 checksum rest) ∧ checksum ≠ 0xffff ∧
      (exactSum (front ++ e.bytes .ipv6 0 rest) + checksum.toNat) % 65535 = 0 := by
  obtain ⟨original, hopens, hnumber, rfl, hcomplete⟩ := hcarries
  obtain ⟨inner, length, cargo, src, hinner, htotal, hcargo, hshows, hbytes⟩ :=
    quotation_ipv6 (errorInIPv6_of_forward hquotes h)
  rw [hopens.header_eq, Except.ok.injEq] at hinner
  subst hinner
  rw [hopens.length_eq, Nat.add_left_cancel_iff] at htotal
  subst htotal
  rw [hopens.message_eq] at hshows hbytes
  cases Cargo.eq_echo (hnumber.symm.trans hcargo) hshows hcomplete.2
  have hlength := hcomplete.1
  rw [minimumMtu] at hwhole hbytes
  have hnew := standsFor_pseudoSum6 src (p.embed original.dst) (Protocol.icmp .ipv6).number
    (show message.length < 0x100000000 by omega)
  obtain ⟨checksum, hrequoted, hones, hmod⟩ := requoted_echo standsFor_nil hnew hcomplete hverifies .ipv6
  have hquoted : (Cargo.echo e).requoted .ipv6
      ((Cargo.echo e).adjust6 original message.length src (p.embed original.dst)) message
      = e.bytes .ipv6 checksum (message.drop 4) := hrequoted
  have hsize := Icmp.Echo.length_bytes (Nat.le_trans (by decide) hlength) .ipv6 e checksum
  rw [hquoted, List.take_of_length_le (by omega)] at hbytes
  let header := original.inIPv6 (Protocol.icmp .ipv6).number original.ttl message.length src (p.embed original.dst)
  refine ⟨checksum, src, p.embed original.dst, ⟨header, ?_, rfl, by rw [hsize]; rfl, ⟨by omega, rfl⟩⟩, hones, hmod⟩
  rw [hbytes]
  refine IPv6.Header.opens ?_
  rw [hsize]
  exact UInt16.toNat_ofNat'.trans (Nat.mod_eq_of_lt (by omega))

end Directions

end Forwarding

namespace Gateway

open Checksum

/-- Whichever way an error is forwarded that quotes a whole echo message which verifies, if none of it is cut off:
the message verifies on the other side unless it is a reply of zeros that went to IPv4, and where it does, its
checksum is the one from scratch. -/
theorem quoted_echo {g : Gateway} {now : Nat} {family : Family} {e : Icmp.Echo}
    {datagram pseudo message packet : Bytes} {d : Datagram} (hcarries : CarriesEcho family datagram e pseudo message)
    (hverifies : Verifies (pseudo ++ message)) (hquotes : Quotes family packet datagram)
    (hwhole : family = .ipv4 → 88 + message.length ≤ minimumMtu)
    (hforward : (g.translateAs now family packet).1 = .ok (.forward d)) :
    let rest := message.drop 4
    ∃ front checksum, QuotesEcho family.other d.body.bytes e front (e.bytes family.other checksum rest) ∧
      (Verifies (front ++ e.bytes family.other checksum rest) ↔
        ¬ (family = .ipv6 ∧ e = .reply ∧ ∀ b ∈ rest, b = 0)) ∧
      (Verifies (front ++ e.bytes family.other checksum rest) →
        checksum = Checksum.ofBytes (front ++ e.bytes family.other 0 rest)) := by
  intro rest
  have hdrop : ∀ reason, Outcome.forward d ≠ .drop reason := fun _ => Outcome.noConfusion
  cases family with
  | ipv4 =>
    obtain ⟨checksum, src, dst, hcarried, hones, hmod⟩ := Forwarding.quotesEcho_toIPv6 hcarries hverifies hquotes
      (hwhole rfl) ((Forwarding.settle_fst_eq_ok hdrop).1 hforward)
    let front := pseudoHeader6 src dst (Protocol.icmp .ipv6).number message.length
    have heven : front.length % 2 = 0 := by rw [length_pseudoHeader6]
    have hpos : 0 < exactSum (front ++ e.bytes .ipv6 0 rest) := by
      have hfits := hwhole rfl
      rw [minimumMtu] at hfits
      have hlt : message.length < 0x100000000 := by omega
      have hfront : 0 < exactSum front := exactSum_pseudoHeader6_pos src dst (by decide) hlt
      rw [exactSum_append heven]
      omega
    have hiff := Icmp.Echo.verifies_iff_pos heven hones hmod
    exact ⟨front, checksum, hcarried, hiff.trans (iff_of_true hpos (by simp)), fun _ => eq_ofBytes hones hmod hpos⟩
  | ipv6 =>
    obtain ⟨checksum, hcarried, hones, hmod⟩ := Forwarding.quotesEcho_toIPv4 hcarries hverifies hquotes
      ((Forwarding.settle_fst_eq_ok hdrop).1 hforward)
    have hiff : Verifies ([] ++ e.bytes .ipv4 checksum rest) ↔ 0 < exactSum (e.bytes .ipv4 0 rest) :=
      Icmp.Echo.verifies_iff_pos rfl hones hmod
    refine ⟨[], checksum, hcarried, hiff.trans ?_, fun h => eq_ofBytes hones hmod (hiff.1 h)⟩
    rw [Nat.pos_iff_ne_zero, ne_eq, Icmp.Echo.exactSum_eq_zero]
    simp only [true_and]

/-- An echo reply from `203.0.113.5` with a message of eight bytes, as it reached `2001:db8::1`. -/
def sampleReply (message : Bytes) : Bytes :=
  [0x60, 0, 0, 0, 0, 8, 58, 64,
    0, 0x64, 0xff, 0x9b, 0, 0, 0, 0, 0, 0, 0, 0, 203, 0, 113, 5,
    0x20, 0x01, 0x0d, 0xb8, 0, 0, 0, 0, 0, 0, 0, 0, 0, 0, 0, 1] ++ message

/-- An error that quotes it: nobody listens. -/
def sampleUnheard (message : Bytes) : Bytes :=
  [0x60, 0, 0, 0, 0, 56, 58, 64,
    0x20, 0x01, 0x0d, 0xb8, 0, 0, 0, 0, 0, 0, 0, 0, 0, 0, 0, 1,
    0, 0x64, 0xff, 0x9b, 0, 0, 0, 0, 0, 0, 0, 0, 203, 0, 113, 5,
    1, 4, 0, 0, 0, 0, 0, 0] ++ sampleReply message

/-- A reply with the identifier 0, the number 1 and no data. -/
def sampleOne : Bytes := [129, 0, 0x14, 0xfc, 0, 0, 0, 1]

/-- A reply with the identifier 0, the number 0 and no data. -/
def sampleZero : Bytes := [129, 0, 0x14, 0xfd, 0, 0, 0, 0]

set_option maxRecDepth 4000 in
theorem quoted_echo_sample :
    ∃ d front, (sampleLeased.translateAs 0 .ipv6 (sampleUnheard sampleOne)).1 = .ok (.forward d) ∧
      QuotesEcho .ipv4 d.body.bytes .reply front [0, 0, 0xff, 0xfe, 0, 0, 0, 1] ∧
      Verifies (front ++ [0, 0, 0xff, 0xfe, 0, 0, 0, 1]) := by
  obtain ⟨d, hforward⟩ : ∃ d, (sampleLeased.translateAs 0 .ipv6 (sampleUnheard sampleOne)).1 = .ok (.forward d) :=
    ⟨_, rfl⟩
  have hopens : IPv6.Opens (sampleReply sampleOne) (IPv6.Header.ofBytes (sampleReply sampleOne)) sampleOne :=
    ⟨rfl, rfl, rfl⟩
  have hcarries : CarriesEcho .ipv6 (sampleReply sampleOne) .reply _ sampleOne := ⟨_, hopens, rfl, rfl, by decide⟩
  have hquotes : Quotes .ipv6 (sampleUnheard sampleOne) (sampleReply sampleOne) := ⟨_, rfl, rfl, rfl, rfl⟩
  obtain ⟨front, checksum, hquoted, hiff, hscratch⟩ :=
    quoted_echo hcarries rfl hquotes (fun h => Family.noConfusion h) hforward
  have hverifies := hiff.2 (by decide)
  obtain ⟨_, -, -, rfl, -⟩ := id hquoted
  rw [hscratch hverifies] at hquoted hverifies
  exact ⟨d, [], hforward, hquoted, hverifies⟩

set_option maxRecDepth 4000 in
/-- A reply of zeros verifies where it arrived, and is quoted with a checksum that no receiver accepts. -/
theorem quoted_echo_of_zeros :
    ∃ pseudo, CarriesEcho .ipv6 (sampleReply sampleZero) .reply pseudo sampleZero ∧ Verifies (pseudo ++ sampleZero) ∧
      Quotes .ipv6 (sampleUnheard sampleZero) (sampleReply sampleZero) ∧
      ∃ d, (sampleLeased.translateAs 0 .ipv6 (sampleUnheard sampleZero)).1 = .ok (.forward d) ∧
        QuotesEcho .ipv4 d.body.bytes .reply [] (List.replicate 8 0) ∧ ¬ Verifies (List.replicate 8 0) := by
  have hopens : IPv6.Opens (sampleReply sampleZero) (IPv6.Header.ofBytes (sampleReply sampleZero)) sampleZero :=
    ⟨rfl, rfl, rfl⟩
  have hcarries : CarriesEcho .ipv6 (sampleReply sampleZero) .reply _ sampleZero := ⟨_, hopens, rfl, rfl, by decide⟩
  have hquotes : Quotes .ipv6 (sampleUnheard sampleZero) (sampleReply sampleZero) := ⟨_, rfl, rfl, rfl, rfl⟩
  obtain ⟨d, hforward, hbytes⟩ : ∃ d,
      (sampleLeased.translateAs 0 .ipv6 (sampleUnheard sampleZero)).1 = .ok (.forward d) ∧
      d.body.bytes.drop 28
        = [0x45, 0, 0, 28, 0, 0, 0x40, 0, 64, 1, 0x3c, 0xda, 203, 0, 113, 5, 192, 0, 2, 1] ++ List.replicate 8 0 :=
    ⟨_, rfl, rfl⟩
  refine ⟨_, hcarries, rfl, hquotes, d, hforward, ?_, ?_⟩
  · rw [QuotesEcho, hbytes]
    exact ⟨_, ⟨rfl, rfl, rfl⟩, rfl, rfl, by decide⟩
  · unfold Verifies
    decide

end Gateway

end Nat64
