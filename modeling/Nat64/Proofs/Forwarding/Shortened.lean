import Nat64.Proofs.Forwarding.Sizes

/-!
# How long a forwarded error is

An error from IPv4 grows on its way to IPv6, and is cut where it would not pass every link. Only the end of the quoted
payload is cut: there is room for all headers, however many options they have. The outer header and the checksum speak
of what is left, the quoted header still of the whole datagram.

* `Cargo.headerSize`: how much of a quoted message is header; `Cargo.requoted_eq`: what
  follows it is passed on as it was.
* `Cargo.take_requoted`: where there is room for the header, only payload is cut.
* `Gateway.error_shortened`: a forwarded error part by part, and how long it is.
-/

namespace Nat64

/-! ## Headers of quoted messages -/

namespace Cargo

variable {family family' : Family} {message : Bytes} {c : Cargo}

/-- How much of the front of a quoted message is header, with its options, as far as it is there. -/
def headerSize (message : Bytes) : Cargo → Nat
  | transport t => t.visibleHeader message
  | echo _ => Icmp.Header.size

theorem headerSize_le (message : Bytes) (c : Cargo) : c.headerSize message ≤ 60 := by
  cases c with
  | transport t => exact Forwarding.visibleHeader_le t message
  | echo e =>
    show Icmp.Header.size ≤ 60
    decide

theorem headerSize_le_length (h : c.Shows family message) : c.headerSize message ≤ message.length := by
  cases c with
  | transport t => cases t <;> exact Nat.min_le_right _ _
  | echo e => exact h.1

/-- The payload of a quoted message is passed on as it was. -/
theorem drop_requoted (h : c.Shows family' message) (adjust : UInt16 → UInt16) :
    (c.requoted family adjust message).drop (c.headerSize message) = message.drop (c.headerSize message) := by
  cases c with
  | transport t =>
    rw [requoted]
    split
    · rename_i hfield
      exact Bytes.drop_setWord (Forwarding.le_visibleHeader hfield) hfield _
    · rfl
  | echo e =>
    simp only [requoted]
    rw [← Icmp.encode_echo h.1]
    exact List.drop_left' (Icmp.Header.length_encode _)

theorem requoted_eq (h : c.Shows family' message) (adjust : UInt16 → UInt16) :
    c.requoted family adjust message
      = (c.requoted family adjust message).take (c.headerSize message) ++ message.drop (c.headerSize message) := by
  rw [← drop_requoted h adjust, List.take_append_drop]

/-- The header is all there. -/
theorem length_take_requoted (h : c.Shows family' message) (adjust : UInt16 → UInt16) :
    ((c.requoted family adjust message).take (c.headerSize message)).length = c.headerSize message := by
  rw [List.length_take, length_requoted h]
  exact Nat.min_eq_left (headerSize_le_length h)

theorem take_requoted (h : c.Shows family' message) (adjust : UInt16 → UInt16) {limit : Nat}
    (hlimit : c.headerSize message ≤ limit) :
    (c.requoted family adjust message).take limit = (c.requoted family adjust message).take (c.headerSize message)
      ++ (message.drop (c.headerSize message)).take (limit - c.headerSize message) := by
  have hfront : ((c.requoted family adjust message).take (c.headerSize message)).length = c.headerSize message :=
    length_take_requoted h adjust
  conv_lhs => rw [requoted_eq h adjust, List.take_append, List.take_of_length_le (hfront.le.trans hlimit), hfront]

end Cargo

/-! ## Errors in IPv6 -/

/-- Whether a packet was forwarded can be told. -/
instance decidableForwarded : (r : Except Fault Outcome) → Decidable (∃ d, r = .ok (.forward d))
  | .ok (.forward d) => isTrue ⟨d, rfl⟩
  | .ok (.reply _) => isFalse fun ⟨_, h⟩ => nomatch h
  | .ok (.drop _) => isFalse fun ⟨_, h⟩ => nomatch h
  | .error _ => isFalse fun ⟨_, h⟩ => nomatch h

namespace Gateway

variable {g : Gateway} {now : Nat} {packet quote : Bytes} {d : Datagram}

/-- Every error that is forwarded to IPv6 is as long as its headers and the bytes that it quotes, or as long as passes
every link if that is less. It consists of its own headers, the quoted header and the header of the quoted message, all
complete, and of the front of the quoted payload. Its own header declares what is left, and its checksum verifies for
that; the quoted header declares the whole payload of the datagram. -/
theorem error_shortened (hquotes : Quotes .ipv4 packet quote)
    (hforward : (g.translateAs now .ipv4 packet).1 = .ok (.forward d)) :
    ∃ (inner : IPv4.Header) (cargo : Cargo) (out shown : IPv6.Header) (error : Icmp.Header),
      let declared := inner.totalLength.toNat - inner.headerLength
      let visible := Bytes.slice quote inner.headerLength declared
      let q := min inner.totalLength.toNat quote.length - inner.headerLength
      let n := cargo.headerSize visible
      let header := (cargo.requoted .ipv6 (cargo.adjust6 inner declared shown.src shown.dst) visible).take n
      IPv4.Header.decode quote = .ok inner ∧ inner.protocol = cargo.number .ipv4 ∧
      visible.length = q ∧ n ≤ q ∧ n ≤ 60 ∧ header.length = n ∧
      d.body.bytes = out.encode
        ++ (error.encode ++ (shown.encode ++ (header ++ (visible.drop n).take (minimumMtu - 88 - n)))) ∧
      d.body.bytes.length = min (88 + q) minimumMtu ∧
      out.payloadLength.toNat = d.body.bytes.length - 40 ∧ out.nextHeader = 58 ∧
      Checksum.Verifies
        (Checksum.pseudoHeader6 out.src out.dst 58 (d.body.bytes.length - 40) ++ d.body.bytes.drop 40) ∧
      shown.payloadLength.toNat = declared := by
  have hcarried := errorInIPv6_of_translateAs hquotes hforward
  generalize (g.translateAs now .ipv4 packet).2.leases = t' at hcarried
  cases hcarried with
  | @intro outer inner _ length c cargo src dst _ _ _ _ _ _ hinner hlength _ hcargo hshows _ _ hbytes =>
    have hdeclared : inner.totalLength.toNat - inner.headerLength = length := by omega
    have hword := inner.totalLength.toNat_lt
    let visible := Bytes.slice quote inner.headerLength length
    let shown := inner.inIPv6 (cargo.number .ipv6) inner.ttl length src (g.embedding.embed inner.dst)
    let whole := cargo.requoted .ipv6 (cargo.adjust6 inner length src (g.embedding.embed inner.dst)) visible
    let rest := shown.encode ++ whole.take (minimumMtu - 88)
    let pseudo := Checksum.pseudoHeader6 (g.embedding.embed outer.src) dst 58 (8 + rest.length)
    let out := outer.inIPv6 58 (outer.ttl - 1) (c.message pseudo rest).length (g.embedding.embed outer.src) dst
    have hvisible : visible.length = min inner.totalLength.toNat quote.length - inner.headerLength := by
      rw [← hlength]
      exact Bytes.length_slice_eq quote inner.headerLength length
    have hthere : cargo.headerSize visible ≤ visible.length := Cargo.headerSize_le_length hshows
    have hroom : cargo.headerSize visible ≤ minimumMtu - 88 := Nat.le_trans (cargo.headerSize_le visible) (by decide)
    have hwhole : whole.length = visible.length := Cargo.length_requoted hshows _
    have hrest : rest.length = 40 + min 1192 visible.length := by
      rw [List.length_append, IPv6.Header.length_encode, List.length_take, hwhole, minimumMtu]
    have hdeclares : out.payloadLength = UInt16.ofNat (8 + rest.length) :=
      congrArg UInt16.ofNat (c.length_message pseudo rest)
    obtain ⟨hsize, houter, hverifies⟩ := c.behind_ipv6 (by omega) hdeclares hbytes
    refine ⟨inner, cargo, out, shown, c.header (Checksum.ofBytes (pseudo ++ ((c.header 0).encode ++ rest))), ?_⟩
    rw [hdeclared]
    refine ⟨hinner, hcargo, hvisible, hvisible ▸ hthere, cargo.headerSize_le visible,
      Cargo.length_take_requoted hshows _, ?_, ?_, houter, rfl, hverifies, ?_⟩
    · rw [hbytes, ← Cargo.take_requoted hshows _ hroom]
      rfl
    · rw [hsize, hrest, ← hvisible, minimumMtu]
      omega
    · exact UInt16.toNat_ofNat'.trans (Nat.mod_eq_of_lt (by omega))

/-- The front of a TCP segment from `192.0.2.1` to `203.0.113.5` that has all the options there is room for. -/
def sampleSegment : Bytes :=
  [0x45, 0, 5, 140, 0, 7, 0, 0, 63, 6, 0, 0, 192, 0, 2, 1, 203, 0, 113, 5,
    0x30, 0x39, 0, 53, 0, 0, 0, 1, 0, 0, 0, 2, 0xf0, 0x10, 0x20, 0, 0x12, 0x34, 0, 0]
    ++ List.replicate 40 1 ++ List.replicate 1300 0x5a

/-- An error from `203.0.113.9` that quotes it: no hops were left. -/
def sampleLarge : Bytes :=
  [0x45, 0, 5, 128, 0, 8, 0, 0, 64, 1, 0, 0, 203, 0, 113, 9, 192, 0, 2, 1, 11, 0, 0, 0, 0, 0, 0, 0] ++ sampleSegment

/-- All 60 bytes of the header go on, and 1132 of the 1300 bytes of payload that are quoted. -/
theorem error_shortened_sample :
    ∃ (d : Datagram) (out shown : IPv6.Header) (error : Icmp.Header) (header : Bytes),
      (sampleLeased.translateAs 5 .ipv4 sampleLarge).1 = .ok (.forward d) ∧ d.body.bytes.length = 1280 ∧
      header.length = 60 ∧
      d.body.bytes = out.encode ++ (error.encode ++ (shown.encode ++ (header ++ List.replicate 1132 0x5a))) ∧
      out.payloadLength.toNat = 1240 ∧ shown.payloadLength.toNat = 1400 := by
  obtain ⟨d, hforward⟩ : ∃ d, (sampleLeased.translateAs 5 .ipv4 sampleLarge).1 = .ok (.forward d) := by decide +kernel
  have hquotes : Quotes .ipv4 sampleLarge sampleSegment :=
    ⟨IPv4.Header.ofBytes 20 sampleLarge, by decide +kernel, by decide +kernel, by decide +kernel, by decide +kernel⟩
  obtain ⟨inner, cargo, out, shown, error, hinner, hcargo, -, -, -, hheader, hbytes, hsize, hdeclares, -, -, hshown⟩ :=
    error_shortened hquotes hforward
  obtain ⟨-, -, -, rfl⟩ := IPv4.Header.decode_eq_ok.1 hinner
  obtain rfl : cargo = .transport .tcp := Cargo.eq_transport (by rw [← hcargo]; rfl)
  have hlength : d.body.bytes.length = 1280 := hsize.trans (by decide +kernel)
  refine ⟨d, out, shown, error, _, hforward, hlength, hheader.trans ?_, hbytes.trans ?_, ?_, hshown.trans ?_⟩
  · decide +kernel
  · simp only [List.append_cancel_left_eq]
    decide +kernel
  · rw [hdeclares, hlength]
  · decide +kernel

end Gateway

end Nat64
