import Nat64.Proofs.Forwarding.Errors
import Nat64.Proofs.Forwarding.Presented

/-!
# Errors about errors

An error may quote a TCP, UDP or echo message, and nothing else. One that quotes another error is refused for that
alone, whatever the inner one says, so that no quotation is ever looked into for a quotation of its own.

* `Cargo.Heads`: quoted bytes open with a datagram that goes through.
* `ShowsError`: quoted bytes open with a datagram that is an error itself.
* `Gateway.quotes_no_error`: the first is all that is forwarded, the second is refused.
-/

namespace Nat64

/-- Bytes open with a datagram of a family, cut short or not, that carries TCP, UDP or an echo message. -/
def Cargo.Heads : Family → Bytes → Cargo → Prop
  | .ipv4, data, c => ∃ h, IPv4.Header.decode data = .ok h ∧ h.isFragment = false ∧ h.protocol = c.number .ipv4 ∧
    c.Shows .ipv4 (Bytes.slice data h.headerLength (h.totalLength.toNat - h.headerLength))
  | .ipv6, data, c => ∃ h, IPv6.Header.decode data = .ok h ∧ h.nextHeader = c.number .ipv6 ∧
    c.Shows .ipv6 (Bytes.slice data IPv6.Header.size h.payloadLength.toNat)

/-- Bytes open with a datagram of a family, cut short or not, that carries an error of some type, whatever its code. The
header of the error is all there, within the length that the datagram declares. -/
inductive ShowsError (data : Bytes) : Family → UInt8 → Prop
  | ipv4 {h : IPv4.Header} (hheader : IPv4.Header.decode data = .ok h) (htotal : h.headerLength ≤ h.totalLength.toNat)
      (hwhole : h.isFragment = false) (hnumber : h.protocol = (Protocol.icmp .ipv4).number)
      (hlength : 8 ≤ (Bytes.slice data h.headerLength (h.totalLength.toNat - h.headerLength)).length)
      (herror : Bytes.byteAt data h.headerLength ∈ ([3, 4, 5, 11, 12] : List UInt8)) :
      ShowsError data .ipv4 (Bytes.byteAt data h.headerLength)
  | ipv6 {h : IPv6.Header} (hheader : IPv6.Header.decode data = .ok h)
      (hnumber : h.nextHeader = (Protocol.icmp .ipv6).number)
      (hlength : 8 ≤ (Bytes.slice data IPv6.Header.size h.payloadLength.toNat).length)
      (herror : Bytes.byteAt data IPv6.Header.size < 128) :
      ShowsError data .ipv6 (Bytes.byteAt data IPv6.Header.size)

/-! ## What is quoted in a packet that is forwarded -/

/-- A message that goes through still shows what it is when it has gone, and when it is cut behind its header. -/
theorem Cargo.Shows.requoted_take {family : Family} {message : Bytes} {c : Cargo} (h : c.Shows family message)
    (family' : Family) (adjust : UInt16 → UInt16) {n : Nat} (hn : ∀ e, c = echo e → 8 ≤ n) :
    c.Shows family' ((c.requoted family' adjust message).take n) := by
  cases c with
  | transport t => trivial
  | echo e =>
    have hlimit := hn e rfl
    constructor
    · rw [List.length_take, requoted, Icmp.Echo.length_bytes (Nat.le_trans (by decide) h.1)]
      exact Nat.le_min.2 ⟨hlimit, h.1⟩
    · rw [Bytes.byteAt_take (by omega)]
      rfl

namespace Forwarding

variable {p : Prefix} {now : Nat} {t t' s : LeaseTable} {family : Family} {packet quote : Bytes} {d : Datagram}

theorem heads_of_toIPv4 (hquotes : Quotes .ipv6 packet quote) (h : toIPv4 p now packet t = (.ok (.forward d), t')) :
    ∃ c : Cargo, c.Heads .ipv6 quote ∧ c.Heads .ipv4 (d.body.bytes.drop 28) := by
  obtain ⟨inner, c, dst, hinner, hnumber, hshows, hfits, hbytes⟩ := quotation_ipv4 (errorInIPv4_of_forward hquotes h)
  refine ⟨c, ⟨inner, hinner, hnumber, hshows⟩, ?_⟩
  let header := inner.inIPv4 (c.number .ipv4) inner.hopLimit inner.payloadLength.toNat (p.extract inner.src) dst
  have htotal : header.totalLength.toNat = 20 + inner.payloadLength.toNat :=
    UInt16.toNat_ofNat'.trans (Nat.mod_eq_of_lt (Nat.lt_succ_of_le hfits))
  have hsize : header.header.headerLength = header.encode.length := header.length_encode.symm
  refine ⟨header.header, ?_, rfl, rfl, ?_⟩
  · rw [hbytes]
    exact header.decode_encode _
  · rw [hbytes, hsize, Bytes.slice_append_right (Nat.le_refl _), Nat.sub_self, header.length_encode]
    refine hshows.requoted_take .ipv4 _ fun e he => ?_
    subst he
    have hvisible := hshows.1.trans (List.length_take_le _ _)
    show 8 ≤ header.totalLength.toNat - 20
    omega

theorem heads_of_toIPv6 (hquotes : Quotes .ipv4 packet quote) (h : toIPv6 p now packet t = (.ok (.forward d), t')) :
    ∃ c : Cargo, c.Heads .ipv4 quote ∧ c.Heads .ipv6 (d.body.bytes.drop 48) := by
  cases errorInIPv6_of_forward hquotes h with
  | @intro _ inner _ length _ c src _ _ _ _ _ _ _ hinner hlength hwhole hnumber hshows _ _ hbytes =>
    let header := inner.inIPv6 (c.number .ipv6) inner.ttl length src (p.embed inner.dst)
    let quoted :=
      c.requoted .ipv6 (c.adjust6 inner length src (p.embed inner.dst)) (Bytes.slice quote inner.headerLength length)
    have hbehind : d.body.bytes.drop 48 = header.encode ++ quoted.take (minimumMtu - 88) := by
      rw [hbytes]
      exact Icmp.Counterpart.drop_behind (IPv6.Header.length_encode _) _ _ _
    have hpayload : header.payloadLength.toNat = length := by
      have htotal := inner.totalLength.toNat_lt
      exact UInt16.toNat_ofNat'.trans (Nat.mod_eq_of_lt (by omega))
    have hsize : IPv6.Header.size = header.encode.length := header.length_encode.symm
    refine ⟨c, ⟨inner, hinner, hwhole, hnumber, ?_⟩, header, ?_, rfl, ?_⟩
    · rw [← hlength, Nat.add_sub_cancel_left]
      exact hshows
    · rw [hbehind]
      exact header.decode_encode _
    · rw [hbehind, hpayload, hsize, Bytes.slice_append_right (Nat.le_refl _), Nat.sub_self, Bytes.slice, List.drop_zero,
        List.take_take]
      refine hshows.requoted_take .ipv6 _ fun e he => ?_
      subst he
      have hvisible := hshows.1.trans (List.length_take_le _ _)
      exact Nat.le_min.2 ⟨hvisible, by decide⟩

/-! ## What is refused -/

/-- A quoted error is refused before its counterpart is looked for. -/
theorem classify_nested {payload : Bytes} (hlength : 8 ≤ payload.length)
    (herror : Icmp.isError family (Bytes.byteAt payload 0) = true) :
    Content.classify family .quoted (Protocol.icmp family).number payload
      = .error (.fault (.nestedError family (Bytes.byteAt payload 0))) := by
  have hheader : Icmp.Header.decode payload = .ok (Icmp.Header.ofBytes payload) :=
    Icmp.Header.decode_eq_ok.2 ⟨hlength, rfl⟩
  have htype : (Icmp.Header.ofBytes payload).type = Bytes.byteAt payload 0 := rfl
  rw [Content.classify, Protocol.ofNumber?_number (.icmp family), hheader]
  simp only [if_true]
  show (if True ∧ Icmp.isError family (Icmp.Header.ofBytes payload).type = true then _ else _) = _
  rw [if_pos ⟨trivial, htype ▸ herror⟩]
  rfl

theorem byteAt_slice {data : Bytes} {offset size : Nat} (h : 0 < size) :
    Bytes.byteAt (Bytes.slice data offset size) 0 = Bytes.byteAt data offset := by
  rw [Bytes.slice, Bytes.byteAt_take h]
  simp [Bytes.byteAt, List.getD]

theorem refusesQuote_of_showsError {type : UInt8} (h : ShowsError quote family type) :
    RefusesQuote family quote (.fault (.nestedError family type)) := by
  cases h with
  | @ipv4 h hheader htotal hwhole hnumber hlength herror =>
    let size := h.totalLength.toNat - h.headerLength
    let message := Bytes.slice quote h.headerLength size
    have hsize : 0 < size := Nat.lt_of_lt_of_le (by decide) (hlength.trans (List.length_take_le _ _))
    have hread : IPv4.Packet.decode .quoted quote = .ok ⟨h, size, message⟩ := by
      refine IPv4.Packet.decode_eq_ok.2 ⟨hheader, Nat.add_sub_cancel' htotal, (nomatch ·), ?_⟩
      rw [List.drop_take]
      rfl
    have htype : Bytes.byteAt message 0 = Bytes.byteAt quote h.headerLength := byteAt_slice hsize
    have hcontent : Content.classify .ipv4 .quoted h.protocol message
        = .error (.fault (.nestedError .ipv4 (Bytes.byteAt quote h.headerLength))) := by
      rw [hnumber, ← htype]
      refine classify_nested hlength (Icmp.isError_ipv4.2 ?_)
      rw [htype]
      simpa [← UInt8.toNat_inj] using herror
    show admit4 .quoted quote = _
    simp only [admit4, hread]
    show (if h.isFragment = true then _ else _) = _
    rw [hwhole, if_neg (by decide)]
    show (if Level.quoted = .outer ∧ h.ttl ≤ 1 then _ else _) = _
    rw [if_neg (fun hlevel => nomatch hlevel.1)]
    show (Content.classify .ipv4 .quoted h.protocol message >>= _) = _
    rw [hcontent]
    rfl
  | @ipv6 h hheader hnumber hlength herror =>
    let message := Bytes.slice quote IPv6.Header.size h.payloadLength.toNat
    have hsize : 0 < h.payloadLength.toNat := Nat.lt_of_lt_of_le (by decide) (hlength.trans (List.length_take_le _ _))
    let read : IPv6.Packet := ⟨h, quote.take (IPv6.Header.size + h.payloadLength.toNat)⟩
    have hread : IPv6.Packet.decode .quoted quote = .ok read :=
      IPv6.Packet.decode_eq_ok.2 ⟨hheader, (nomatch ·), rfl⟩
    have hpayload : read.payload = message := IPv6.Packet.payload_eq hread
    have htype : Bytes.byteAt message 0 = Bytes.byteAt quote IPv6.Header.size := byteAt_slice hsize
    refine Or.inr ⟨read, hread, ?_⟩
    rw [admit6, hpayload, ← htype]
    show Content.classify .ipv6 .quoted h.nextHeader message = _
    rw [hnumber]
    refine classify_nested hlength (Icmp.isError_ipv6.2 ?_)
    rw [htype]
    exact UInt8.lt_iff_toNat_lt.1 herror

/-- What is admitted in a quotation quotes nothing itself. -/
theorem informational_of_quoted {number : UInt8} {payload : Bytes} {h : Icmp.Header} {c : Icmp.Counterpart}
    (hcontent : Content.classify family .quoted number payload = .ok (.message h c)) : c.nature = .informational := by
  obtain ⟨cargo, -, -, hmessage⟩ := classify_quoted_eq_ok hcontent
  cases cargo with
  | transport k => cases hmessage
  | echo e =>
    cases hmessage
    rfl

end Forwarding

/-! ## The gateway -/

/-- Where an error of a family that is built here, without options, starts to quote. -/
def Family.quotation : Family → Nat
  | .ipv4 => 28
  | .ipv6 => 48

namespace Gateway

/-- In every error that is forwarded, what it quotes is a TCP, UDP or echo message, on both sides. An error that is all
right by itself and finds its lease, but quotes another error, is refused for the type of that one, and nothing is sent.
And what is admitted in a quotation is never looked into for another. -/
theorem quotes_no_error (g : Gateway) (now : Nat) (family : Family) (packet quote : Bytes) :
    (∀ d, Quotes family packet quote → (g.translateAs now family packet).1 = .ok (.forward d) →
      ∃ c : Cargo, c.Heads family quote ∧ c.Heads family.other (d.body.bytes.drop family.other.quotation)) ∧
    (∀ type s, Forwarding.Presents now g.leases family packet quote s → ShowsError quote family type →
      g.translateAs now family packet = (.error (.nestedError family type), { g with leases := s }) ∧
      g.translate now packet = (.error (.nestedError family type), { g with leases := s }) ∧
      ∀ (σ : Type) (egress : Egress σ) (device : σ), g.process egress now packet device =
        (.ok (.failed (.nestedError family type)), { g with leases := s }, device)) ∧
    (∀ number payload h c, Forwarding.Content.classify family .quoted number payload = .ok (.message h c) →
      c.nature = .informational) := by
  refine ⟨fun d hquotes hforward => ?_, fun type s hpresents hshows => ?_,
    fun _ _ _ _ => Forwarding.informational_of_quoted⟩
  · have hdrop : ∀ reason, Outcome.forward d ≠ .drop reason := fun _ => Outcome.noConfusion
    cases family with
    | ipv4 => exact Forwarding.heads_of_toIPv6 hquotes ((Forwarding.settle_fst_eq_ok hdrop).1 hforward)
    | ipv6 => exact Forwarding.heads_of_toIPv4 hquotes ((Forwarding.settle_fst_eq_ok hdrop).1 hforward)
  · have hcarry := Forwarding.carry_of_refused g.embedding hpresents (Forwarding.refusesQuote_of_showsError hshows)
    have hfault : g.translateAs now family packet = (.error (.nestedError family type), { g with leases := s }) := by
      rw [translateAs_eq_settle, Forwarding.settle, hcarry]
    have htranslate : g.translate now packet = (.error (.nestedError family type), { g with leases := s }) := by
      rw [translate_of_family (Forwarding.family?_of_presents hpresents), hfault]
    refine ⟨hfault, htranslate, fun σ egress device => ?_⟩
    rw [process, htranslate]

/-- An error from `203.0.113.9` about a datagram from `192.0.2.1` that is an error itself,
with a code that there is not. -/
def sampleNested : Bytes :=
  [0x45, 0, 0, 56, 0, 8, 0, 0, 64, 1, 0, 0, 203, 0, 113, 9, 192, 0, 2, 1, 3, 1, 0, 0, 0, 0, 0, 0,
    0x45, 0, 0, 28, 0, 7, 0, 0, 1, 1, 0, 0, 192, 0, 2, 1, 203, 0, 113, 5, 12, 77, 0, 0, 0, 0, 0, 0]

set_option maxRecDepth 4000 in
theorem quotes_no_error_samples :
    (∃ d c, (sampleLeased.translateAs 5 .ipv4 sampleExceeded).1 = .ok (.forward d) ∧ Cargo.Heads .ipv4 sampleFront c ∧
      Cargo.Heads .ipv6 (d.body.bytes.drop 48) c) ∧
    (sampleLeased.translate 5 sampleNested).1 = .error (.nestedError .ipv4 12) ∧
    (Icmp.Counterpart.echo 129 7).nature = .informational := by
  refine ⟨?_, ?_, ?_⟩
  · obtain ⟨d, hforward⟩ : ∃ d, (sampleLeased.translateAs 5 .ipv4 sampleExceeded).1 = .ok (.forward d) := ⟨_, rfl⟩
    have hquotes : Quotes .ipv4 sampleExceeded sampleFront := ⟨_, rfl, rfl, rfl, rfl⟩
    obtain ⟨c, hquote, hquoted⟩ := (quotes_no_error sampleLeased 5 .ipv4 _ _).1 d hquotes hforward
    exact ⟨d, c, hforward, hquote, hquoted⟩
  · have hopens : IPv4.Opens sampleNested (IPv4.Header.ofBytes 20 sampleNested) (sampleNested.drop 20) :=
      ⟨rfl, rfl, rfl⟩
    have hpresents : Forwarding.Presents 5 sampleLeased.leases .ipv4 sampleNested (sampleNested.drop 28)
        (sampleLeased.leases.findHolder 5 (IPv4.ofNat 0xc0000201)).2 :=
      .ipv4 hopens rfl (by decide) rfl (by decide) rfl rfl rfl
    have hinner : IPv4.Header.decode (sampleNested.drop 28) = .ok (IPv4.Header.ofBytes 20 (sampleNested.drop 28)) := rfl
    have hshows : ShowsError (sampleNested.drop 28) .ipv4 12 := .ipv4 hinner (by decide) rfl rfl (by decide) (by decide)
    rw [((quotes_no_error sampleLeased 5 .ipv4 _ _).2.1 12 _ hpresents hshows).2.1]
  · exact (quotes_no_error sampleLeased 5 .ipv4 [] []).2.2 1 [0, 0, 0, 0, 0, 0, 0, 7] _ _ rfl

end Gateway

end Nat64
