import Nat64.Proofs.Forwarding.Transparent

/-!
# Errors on the other side

An error quotes the front of the datagram it is about, and both have a header of their own. All of it is carried over:
the error under its own addresses, the datagram under those it had on the other side, where it went the other way.

* `Quotes`: an error that quotes some bytes.
* `Icmp.ErrorToIPv4`, `Icmp.ErrorToIPv6`: what errors say in the other family.
* `ErrorInIPv4`, `ErrorInIPv6`: what it becomes, byte for byte, and which leases it looks up.
* `Gateway.errorInIPv4_of_translateAs`, `Gateway.errorInIPv6_of_translateAs`: every error
  that is forwarded becomes that.
-/

namespace Nat64

/-- A packet of a family is an error, and quotes some bytes. -/
def Quotes : Family → Bytes → Bytes → Prop
  | .ipv4, packet, quote => ∃ h, IPv4.Header.decode packet = .ok h ∧ h.protocol = (Protocol.icmp .ipv4).number ∧
    let message := (packet.take h.totalLength.toNat).drop h.headerLength
    Icmp.isError .ipv4 (Bytes.byteAt message 0) = true ∧ message.drop Icmp.Header.size = quote
  | .ipv6, packet, quote => ∃ h, IPv6.Header.decode packet = .ok h ∧ h.nextHeader = (Protocol.icmp .ipv6).number ∧
    let message := (packet.take (IPv6.Header.size + h.payloadLength.toNat)).drop IPv6.Header.size
    Icmp.isError .ipv6 (Bytes.byteAt message 0) = true ∧ message.drop Icmp.Header.size = quote

/-! ## What errors say -/

namespace Icmp

variable {h : Header} {c : Counterpart}

/-- The errors that ICMP has for those of ICMPv6. -/
inductive ErrorToIPv4 (h : Header) : Counterpart → Prop
  /-- The destination is out of reach, or the packet would leave its scope. -/
  | unreachable (htype : h.type = 1) (hcode : h.code ∈ ([0, 2, 3] : List UInt8)) : ErrorToIPv4 h (.error 3 1)
  | prohibited (htype : h.type = 1) (hcode : h.code = 1) : ErrorToIPv4 h (.error 3 10)
  | port (htype : h.type = 1) (hcode : h.code = 4) : ErrorToIPv4 h (.error 3 3)
  /-- The limit of the link, less what the headers differ by, in 16 bits. -/
  | tooBig (htype : h.type = 2) : ErrorToIPv4 h (.errorWith 3 4 (UInt32.ofNat (min (h.rest.toNat - 20) 65535)))
  | exceeded (htype : h.type = 3) (hcode : h.code ∈ ([0, 1] : List UInt8)) : ErrorToIPv4 h (.error 11 h.code)
  | protocol (htype : h.type = 4) (hcode : h.code = 1) : ErrorToIPv4 h (.error 3 2)

/-- The errors that ICMPv6 has for those of ICMP. -/
inductive ErrorToIPv6 (h : Header) : Counterpart → Prop
  /-- The network or the host is out of reach or unknown, or not for this service. -/
  | unreachable (htype : h.type = 3) (hcode : h.code ∈ ([0, 1, 5, 6, 7, 8, 11, 12] : List UInt8)) :
      ErrorToIPv6 h (.error 1 0)
  | prohibited (htype : h.type = 3) (hcode : h.code ∈ ([9, 10, 13, 15] : List UInt8)) : ErrorToIPv6 h (.error 1 1)
  | port (htype : h.type = 3) (hcode : h.code = 3) : ErrorToIPv6 h (.error 1 4)
  /-- The limit of the link and what the headers differ by, but no less than every link passes. -/
  | tooBig (htype : h.type = 3) (hcode : h.code = 4) :
      ErrorToIPv6 h (.errorWith 2 0 (UInt32.ofNat (max (h.rest.toNat % 65536 + 20) 1280)))
  | exceeded (htype : h.type = 11) (hcode : h.code ∈ ([0, 1] : List UInt8)) : ErrorToIPv6 h (.error 3 h.code)
  /-- The value points at the next header. -/
  | protocol (htype : h.type = 3) (hcode : h.code = 2) : ErrorToIPv6 h (.errorWith 4 1 6)

/-- What is matched as a number is that byte. -/
theorem eq_ofNat_of_toNat {b : UInt8} {n : Nat} (h : b.toNat = n) : b = UInt8.ofNat n := by
  rw [← h, UInt8.ofNat_toNat]

theorem errorToIPv4_of_eq_ok (hc : toIPv4 h = .ok (some c)) (herror : c.nature = .error) : ErrorToIPv4 h c := by
  unfold toIPv4 at hc
  split at hc <;> rename_i htype
  case h_3 =>
    replace htype := eq_ofNat_of_toNat htype
    split at hc <;> rename_i hcode <;> cases hc <;> replace hcode := eq_ofNat_of_toNat hcode
    all_goals first
      | exact .unreachable htype (by rw [hcode]; decide)
      | exact .prohibited htype hcode
      | exact .port htype hcode
  case h_4 =>
    cases hc
    exact .tooBig (eq_ofNat_of_toNat htype)
  case h_5 =>
    replace htype := eq_ofNat_of_toNat htype
    split at hc <;> rename_i hcode <;> cases hc <;> exact .exceeded htype (by rw [eq_ofNat_of_toNat hcode]; decide)
  case h_6 =>
    split at hc <;> rename_i hcode <;> cases hc
    exact .protocol (eq_ofNat_of_toNat htype) (eq_ofNat_of_toNat hcode)
  all_goals cases hc <;> cases herror

theorem errorToIPv6_of_eq_ok (hc : toIPv6 h = .ok (some c)) (herror : c.nature = .error) : ErrorToIPv6 h c := by
  unfold toIPv6 at hc
  split at hc <;> rename_i htype
  case h_3 =>
    replace htype := eq_ofNat_of_toNat htype
    split at hc <;> rename_i hcode <;> cases hc <;> replace hcode := eq_ofNat_of_toNat hcode
    all_goals first
      | exact .unreachable htype (by rw [hcode]; decide)
      | exact .prohibited htype (by rw [hcode]; decide)
      | exact .protocol htype hcode
      | exact .port htype hcode
      | exact .tooBig htype hcode
  case h_4 =>
    replace htype := eq_ofNat_of_toNat htype
    split at hc <;> rename_i hcode <;> cases hc <;> exact .exceeded htype (by rw [eq_ofNat_of_toNat hcode]; decide)
  all_goals cases hc <;> cases herror

end Icmp

/-- What an ICMPv6 error that quotes some bytes becomes in IPv4, and the leases that it leaves. Its sender and the
receiver of the quoted datagram appear under the addresses they lease. -/
inductive ErrorInIPv4 (p : Prefix) (now : Nat) (t : LeaseTable) (packet quote : Bytes) : Datagram → LeaseTable → Prop
  | intro {outer inner : IPv6.Header} {message : Bytes} {c : Icmp.Counterpart} {cargo : Cargo} {src dst : IPv4}
      {s t' : LeaseTable} {d : Datagram}
      (hopens : IPv6.Opens packet outer message)
      (hnumber : outer.nextHeader = (Protocol.icmp .ipv6).number)
      (hquote : 8 ≤ message.length ∧ message.drop 8 = quote)
      (hcounterpart : Icmp.ErrorToIPv4 (Icmp.Header.ofBytes message) c)
      (hsrc : t.leaseFor now outer.src = (.ok src, s))
      (hinner : IPv6.Header.decode quote = .ok inner)
      (hcargo : inner.nextHeader = cargo.number .ipv6)
      (hshows : cargo.Shows .ipv6 (Bytes.slice quote 40 inner.payloadLength.toNat))
      (hdst : s.leaseFor now inner.dst = (.ok dst, t'))
      (hfits : 20 + inner.payloadLength.toNat ≤ 0xffff)
      (hdestination : d.destination = .ipv4 (p.extract outer.dst))
      (hbytes :
        let length := inner.payloadLength.toNat
        let quoted := cargo.requoted .ipv4 (cargo.adjust4 inner (p.extract inner.src) dst) (Bytes.slice quote 40 length)
        let header := inner.inIPv4 (cargo.number .ipv4) inner.hopLimit length (p.extract inner.src) dst
        let error := c.message [] (header.encode ++ quoted)
        let hops := outer.hopLimit - 1
        d.body.bytes = (outer.inIPv4 1 hops error.length src (p.extract outer.dst)).encode ++ error) :
      ErrorInIPv4 p now t packet quote d t'

/-- What an ICMP error that quotes some bytes becomes in IPv6, and the leases that it leaves. Its receiver
and the sender of the quoted datagram appear as the hosts that hold their addresses; the end is cut off
where it would not pass every link. -/
inductive ErrorInIPv6 (p : Prefix) (now : Nat) (t : LeaseTable) (packet quote : Bytes) : Datagram → LeaseTable → Prop
  | intro {outer inner : IPv4.Header} {message : Bytes} {length : Nat} {c : Icmp.Counterpart} {cargo : Cargo}
      {src dst : IPv6} {d : Datagram}
      (hopens : IPv4.Opens packet outer message)
      (hnumber : outer.protocol = (Protocol.icmp .ipv4).number)
      (hquote : 8 ≤ message.length ∧ message.drop 8 = quote)
      (hcounterpart : Icmp.ErrorToIPv6 (Icmp.Header.ofBytes message) c)
      (hdst : t.holderOf? outer.dst = some dst)
      (hinner : IPv4.Header.decode quote = .ok inner)
      (hlength : inner.headerLength + length = inner.totalLength.toNat)
      (hwhole : inner.isFragment = false)
      (hcargo : inner.protocol = cargo.number .ipv4)
      (hshows : cargo.Shows .ipv4 (Bytes.slice quote inner.headerLength length))
      (hsrc : t.holderOf? inner.src = some src)
      (hdestination : d.destination = .ipv6 dst)
      (hbytes :
        let quoted := cargo.requoted .ipv6 (cargo.adjust6 inner length src (p.embed inner.dst))
          (Bytes.slice quote inner.headerLength length)
        let header := inner.inIPv6 (cargo.number .ipv6) inner.ttl length src (p.embed inner.dst)
        let rest := header.encode ++ quoted.take (minimumMtu - 88)
        let error := c.message (Checksum.pseudoHeader6 (p.embed outer.src) dst 58 (8 + rest.length)) rest
        let hops := outer.ttl - 1
        d.body.bytes = (outer.inIPv6 58 hops error.length (p.embed outer.src) dst).encode ++ error) :
      ErrorInIPv6 p now t packet quote d ((t.renew now outer.dst).renew now inner.src)

namespace Forwarding

variable {p : Prefix} {now : Nat} {t t' : LeaseTable} {packet quote : Bytes} {d : Datagram}

/-! ## To IPv4 -/

/-- A quoted datagram in IPv4. -/
theorem quoteIPv4_bytes {quoted : Assembly} (h : quoteIPv4 p now quote t = (.ok quoted, t')) :
    ∃ (inner : IPv6.Header) (cargo : Cargo) (dst : IPv4),
      let length := inner.payloadLength.toNat
      let visible := Bytes.slice quote 40 length
      IPv6.Header.decode quote = .ok inner ∧ inner.nextHeader = cargo.number .ipv6 ∧ cargo.Shows .ipv6 visible ∧
      t.leaseFor now inner.dst = (.ok dst, t') ∧ 20 + length ≤ 0xffff ∧
      quoted.bytes = (inner.inIPv4 (cargo.number .ipv4) inner.hopLimit length (p.extract inner.src) dst).encode
        ++ cargo.requoted .ipv4 (cargo.adjust4 inner (p.extract inner.src) dst) visible := by
  obtain ⟨read, content, dst, hread, hadmit, hdst, hwrap⟩ := quoteIPv4_eq_ok.1 h
  obtain ⟨cargo, hcargo, hshows, rfl⟩ := classify_quoted_eq_ok hadmit
  obtain ⟨hfits, rfl⟩ := wrap4_eq_ok.1 hwrap
  have hbuilt := builtOf_quotedBody4 hshows (p.extract read.header.src) dst
  have hpayload := IPv6.Packet.payload_eq hread
  refine ⟨read.header, cargo, dst, (IPv6.Packet.decode_eq_ok.1 hread).1, hcargo, hpayload ▸ hshows, hdst, hfits, ?_⟩
  rw [Assembly.bytes_front, hbuilt.bytes_eq, header4, Cargo.number_content, hpayload]
  rfl

theorem errorInIPv4_of_forward (hquotes : Quotes .ipv6 packet quote)
    (h : toIPv4 p now packet t = (.ok (.forward d), t')) : ErrorInIPv4 p now t packet quote d t' := by
  obtain ⟨outer, houter, hnumber, herror, hquote⟩ := hquotes
  obtain ⟨read, content, src, s, body, hread, -, hadmit, hsrc, hbody, hwrap, hdestination⟩ := toIPv4_eq_forward.1 h
  obtain ⟨hheader, -, hbytes⟩ := IPv6.Packet.decode_eq_ok.1 hread
  rw [houter, Except.ok.injEq] at hheader
  subst hheader
  have hpayload : read.payload = (packet.take (IPv6.Header.size + read.payloadLength)).drop IPv6.Header.size := by
    rw [IPv6.Packet.payload, hbytes]
  rw [admit6, hnumber] at hadmit
  obtain ⟨hlength, c, hcounterpart, hnature, rfl⟩ := classify_error hadmit (hpayload ▸ herror)
  obtain ⟨message, s', hmessage, hlift⟩ := bind_eq_ok.1 hbody
  obtain ⟨hseal, rfl⟩ := liftFault_eq_ok.1 hlift
  obtain ⟨-, hwhole⟩ := wrap4_eq_ok.1 hwrap
  rcases messageBody4_eq_ok.1 hmessage with ⟨hinformational, -⟩ | ⟨-, quoted, hquoted, rfl⟩
  · rw [hnature] at hinformational
    cases hinformational
  replace hquote : read.payload.drop 8 = quote := by
    rw [hpayload]
    exact hquote
  rw [Icmp.Header.size, hquote] at hquoted
  obtain ⟨inner, cargo, dst, hinner, hcargo, hshows, hdst, hfits, hquotedbytes⟩ := quoteIPv4_bytes hquoted
  have hfront := bytes_messageFront_append c quoted
  rw [hquotedbytes] at hfront
  have hsealed := sealMessage_eq_ok hfront hseal Checksum.standsFor_nil
  refine .intro (IPv6.Packet.opens hread) hnumber ⟨hlength, hquote⟩ (Icmp.errorToIPv4_of_eq_ok hcounterpart hnature)
    hsrc hinner hcargo hshows hdst hfits hdestination ?_
  rw [hwhole, Assembly.bytes_front, ← Assembly.length_bytes, hsealed]
  rfl

/-- The quoted datagram stands behind two headers. -/
theorem quotation_ipv4 (h : ErrorInIPv4 p now t packet quote d t') :
    ∃ (inner : IPv6.Header) (cargo : Cargo) (dst : IPv4),
      let length := inner.payloadLength.toNat
      let visible := Bytes.slice quote 40 length
      IPv6.Header.decode quote = .ok inner ∧ inner.nextHeader = cargo.number .ipv6 ∧ cargo.Shows .ipv6 visible ∧
      20 + length ≤ 0xffff ∧
      d.body.bytes.drop 28 = (inner.inIPv4 (cargo.number .ipv4) inner.hopLimit length (p.extract inner.src) dst).encode
        ++ cargo.requoted .ipv4 (cargo.adjust4 inner (p.extract inner.src) dst) visible := by
  cases h with
  | @intro _ inner _ _ cargo _ dst _ _ _ _ _ _ _ _ hinner hcargo hshows _ hfits _ hbytes =>
    refine ⟨inner, cargo, dst, hinner, hcargo, hshows, hfits, ?_⟩
    rw [hbytes]
    exact Icmp.Counterpart.drop_behind (IPv4.HeaderFields.length_encode _) _ _ _

/-! ## To IPv6 -/

/-- An error is cut in the message that it quotes, never in its headers. -/
theorem BuiltOf.bytes_shorten {body : Assembly} {message header : Bytes} (h : BuiltOf body message)
    (c : Icmp.Counterpart) (hheader : header.length = 40) :
    ((messageFront c ++ (Assembly.ofList [⟨.ipv6, header⟩] ++ body)).shorten (errorLimit - IPv6.Header.size)).bytes
      = (c.header 0).encode ++ (header ++ message.take (minimumMtu - 88)) := by
  obtain ⟨kind, field, rest, hkind, hshort, rfl, rfl⟩ := h
  let front : List Segment := [⟨.icmp, (c.header 0).encode⟩, ⟨.ipv6, header⟩, ⟨kind, field⟩]
  have howned : ∀ s ∈ front, s.IsOwned := by
    simp [front, Segment.IsOwned, hkind]
  have hbytes : front.flatMap (·.bytes) = (c.header 0).encode ++ (header ++ field) := by
    simp [front]
  have hlimit : (front.flatMap (·.bytes)).length ≤ errorLimit - IPv6.Header.size := by
    rw [hbytes, List.length_append, List.length_append, Icmp.Header.length_encode, hheader, errorLimit, minimumMtu,
      IPv6.Header.size]
    omega
  have hwhole : messageFront c
        ++ (Assembly.ofList [⟨.ipv6, header⟩] ++ Assembly.ofList [⟨kind, field⟩, ⟨.payload, rest⟩])
      = Assembly.ofList (front ++ [⟨.payload, rest⟩]) := by
    rw [messageFront, Assembly.ofList_append, Assembly.ofList_append]
    rfl
  have hcut : errorLimit - IPv6.Header.size = (c.header 0).encode.length + (header.length + (minimumMtu - 88)) := by
    rw [Icmp.Header.length_encode, hheader]
    rfl
  rw [hwhole, Assembly.bytes_shorten_ofList howned hlimit, hbytes, hcut, List.append_assoc, List.append_assoc,
    List.take_length_add_append, List.take_length_add_append]

/-- A quoted datagram in IPv6, between its error and the end of what passes every link. -/
theorem quoteIPv6_bytes {quoted : Assembly} (c : Icmp.Counterpart) (h : quoteIPv6 p now quote t = (.ok quoted, t')) :
    ∃ (inner : IPv4.Header) (length : Nat) (cargo : Cargo) (src : IPv6),
      let visible := Bytes.slice quote inner.headerLength length
      IPv4.Header.decode quote = .ok inner ∧ inner.headerLength + length = inner.totalLength.toNat ∧
      inner.isFragment = false ∧ inner.protocol = cargo.number .ipv4 ∧ cargo.Shows .ipv4 visible ∧
      t.findHolder now inner.src = (.ok src, t') ∧
      ((messageFront c ++ quoted).shorten (errorLimit - IPv6.Header.size)).bytes = (c.header 0).encode
        ++ ((inner.inIPv6 (cargo.number .ipv6) inner.ttl length src (p.embed inner.dst)).encode
        ++ (cargo.requoted .ipv6 (cargo.adjust6 inner length src (p.embed inner.dst)) visible).take
          (minimumMtu - 88)) := by
  obtain ⟨read, content, src, hadmit, hsrc, hwrap⟩ := quoteIPv6_eq_ok.1 h
  obtain ⟨hread, hwhole, -, hcontent⟩ := admit4_eq_ok.1 hadmit
  obtain ⟨hheader, hlength, -⟩ := IPv4.Packet.decode_eq_ok.1 hread
  obtain ⟨cargo, hcargo, hshows, rfl⟩ := classify_quoted_eq_ok hcontent
  obtain ⟨-, rfl⟩ := wrap6_eq_ok.1 hwrap
  have hpayload := IPv4.Packet.payload_eq hread
  have hbuilt := builtOf_quotedBody6 hshows src (p.embed read.header.dst)
  refine ⟨read.header, read.payloadLength, cargo, src, hheader, hlength, hwhole, hcargo, hpayload ▸ hshows, hsrc, ?_⟩
  rw [hbuilt.bytes_shorten c (IPv6.Header.length_encode _), header6, Cargo.number_content, hpayload]
  rfl

theorem errorInIPv6_of_forward (hquotes : Quotes .ipv4 packet quote)
    (h : toIPv6 p now packet t = (.ok (.forward d), t')) : ErrorInIPv6 p now t packet quote d t' := by
  obtain ⟨outer, houter, hnumber, herror, hquote⟩ := hquotes
  obtain ⟨read, content, dst, s, body, _, hd, hadmit, hdst, hbody, hwrap, hdestination⟩ := toIPv6_eq_ok.1 h
  cases hd
  obtain ⟨hread, -, -, hcontent⟩ := admit4_eq_ok.1 hadmit
  obtain ⟨hheader, -, -, hpayload⟩ := IPv4.Packet.decode_eq_ok.1 hread
  rw [houter, Except.ok.injEq] at hheader
  subst hheader
  rw [hnumber] at hcontent
  obtain ⟨hlength, c, hcounterpart, hnature, rfl⟩ := classify_error hcontent (hpayload ▸ herror)
  obtain ⟨message, s', hmessage, hlift⟩ := bind_eq_ok.1 hbody
  obtain ⟨hseal, rfl⟩ := liftFault_eq_ok.1 hlift
  obtain ⟨-, hwhole⟩ := wrap6_eq_ok.1 hwrap
  rcases messageBody6_eq_ok.1 hmessage with ⟨hinformational, -⟩ | ⟨-, quoted, hquoted, rfl⟩
  · rw [hnature] at hinformational
    cases hinformational
  replace hquote : read.payload.drop 8 = quote := by
    rw [hpayload]
    exact hquote
  rw [Icmp.Header.size, hquote] at hquoted
  obtain ⟨inner, length, cargo, src, hinner, htotal, hfragment, hcargo, hshows, hsrc, hfront⟩ :=
    quoteIPv6_bytes c hquoted
  obtain ⟨hholder, rfl⟩ := LeaseTable.findHolder_eq_ok.1 hdst
  obtain ⟨hholder', rfl⟩ := LeaseTable.findHolder_eq_ok.1 hsrc
  rw [LeaseTable.holderOf?_renew] at hholder'
  have hsize := congrArg List.length hfront
  rw [Assembly.length_bytes, List.length_append, Icmp.Header.length_encode] at hsize
  have hlt : ((messageFront c ++ quoted).shorten (errorLimit - IPv6.Header.size)).size < 0x100000000 := by
    rw [hsize, List.length_append, IPv6.Header.length_encode, List.length_take, minimumMtu]
    omega
  rw [hsize] at hlt hseal
  have hsealed := sealMessage_eq_ok hfront hseal (Checksum.standsFor_pseudoSum6 _ dst _ hlt)
  refine .intro (IPv4.Packet.opens hread) hnumber ⟨hlength, hquote⟩ (Icmp.errorToIPv6_of_eq_ok hcounterpart hnature)
    hholder hinner htotal hfragment hcargo hshows hholder' hdestination ?_
  rw [hwhole, Assembly.bytes_front, ← Assembly.length_bytes, hsealed]
  rfl

/-- The quoted datagram stands behind two headers. -/
theorem quotation_ipv6 (h : ErrorInIPv6 p now t packet quote d t') :
    ∃ (inner : IPv4.Header) (length : Nat) (cargo : Cargo) (src : IPv6),
      let visible := Bytes.slice quote inner.headerLength length
      IPv4.Header.decode quote = .ok inner ∧ inner.headerLength + length = inner.totalLength.toNat ∧
      inner.protocol = cargo.number .ipv4 ∧ cargo.Shows .ipv4 visible ∧
      d.body.bytes.drop 48 = (inner.inIPv6 (cargo.number .ipv6) inner.ttl length src (p.embed inner.dst)).encode
        ++ (cargo.requoted .ipv6 (cargo.adjust6 inner length src (p.embed inner.dst)) visible).take
          (minimumMtu - 88) := by
  cases h with
  | @intro _ inner _ length _ cargo src _ _ _ _ _ _ _ hinner hlength _ hcargo hshows _ _ hbytes =>
    refine ⟨inner, length, cargo, src, hinner, hlength, hcargo, hshows, ?_⟩
    rw [hbytes]
    exact Icmp.Counterpart.drop_behind (IPv6.Header.length_encode _) _ _ _

end Forwarding

/-! ## Both directions -/

namespace Gateway

variable {g : Gateway} {now : Nat} {family : Family} {packet quote : Bytes} {d : Datagram}

/-- An error that is forwarded to IPv6, as the gateway translates it. -/
theorem errorInIPv6_of_translateAs (hquotes : Quotes .ipv4 packet quote)
    (hforward : (g.translateAs now .ipv4 packet).1 = .ok (.forward d)) :
    ErrorInIPv6 g.embedding now g.leases packet quote d (g.translateAs now .ipv4 packet).2.leases := by
  have hdrop : ∀ reason, Outcome.forward d ≠ .drop reason := fun _ => Outcome.noConfusion
  show ErrorInIPv6 g.embedding now g.leases packet quote d (Forwarding.settle _ g.leases).2
  rw [Forwarding.settle_snd]
  exact Forwarding.errorInIPv6_of_forward hquotes ((Forwarding.settle_fst_eq_ok hdrop).1 hforward)

theorem errorInIPv4_of_translateAs (hquotes : Quotes .ipv6 packet quote)
    (hforward : (g.translateAs now .ipv6 packet).1 = .ok (.forward d)) :
    ErrorInIPv4 g.embedding now g.leases packet quote d (g.translateAs now .ipv6 packet).2.leases := by
  have hdrop : ∀ reason, Outcome.forward d ≠ .drop reason := fun _ => Outcome.noConfusion
  show ErrorInIPv4 g.embedding now g.leases packet quote d (Forwarding.settle _ g.leases).2
  rw [Forwarding.settle_snd]
  exact Forwarding.errorInIPv4_of_forward hquotes ((Forwarding.settle_fst_eq_ok hdrop).1 hforward)

/-- What an error of a family that quotes some bytes becomes on the other side, and the leases that it leaves. -/
def CarriesError (g : Gateway) (now : Nat) : Family → Bytes → Bytes → Datagram → LeaseTable → Prop
  | .ipv4 => ErrorInIPv6 g.embedding now g.leases
  | .ipv6 => ErrorInIPv4 g.embedding now g.leases

/-- Whichever way an error is forwarded: behind a new header stands its counterpart with a checksum of its own, and
behind that what was quoted, with the lengths that were declared, under the addresses it had there. -/
theorem error_carried (hquotes : Quotes family packet quote)
    (hforward : (g.translateAs now family packet).1 = .ok (.forward d)) :
    g.CarriesError now family packet quote d (g.translateAs now family packet).2.leases := by
  cases family with
  | ipv4 => exact errorInIPv6_of_translateAs hquotes hforward
  | ipv6 => exact errorInIPv4_of_translateAs hquotes hforward

/-- The front of a UDP packet with options from `192.0.2.1` to `203.0.113.5`, cut off inside its checksum. -/
def sampleFront : Bytes :=
  [0x46, 0, 0, 60, 0, 7, 0, 0, 1, 17, 0, 0, 192, 0, 2, 1, 203, 0, 113, 5, 1, 1, 1, 0,
    0x30, 0x39, 0, 53, 0, 36, 0xab]

/-- An error with options from `203.0.113.9` that quotes it: no hops were left. -/
def sampleExceeded : Bytes :=
  [0x46, 0x2e, 0, 63, 0, 8, 0, 0, 64, 1, 0, 0, 203, 0, 113, 9, 192, 0, 2, 1, 1, 1, 1, 0,
    11, 0, 0, 0, 0, 0, 0, 0] ++ sampleFront

set_option maxRecDepth 4000 in
theorem error_carried_sample : ∃ d,
    (sampleLeased.translateAs 5 .ipv4 sampleExceeded).1 = .ok (.forward d) ∧
    sampleLeased.CarriesError 5 .ipv4 sampleExceeded sampleFront d
      (sampleLeased.translateAs 5 .ipv4 sampleExceeded).2.leases := by
  obtain ⟨d, hforward⟩ : ∃ d, (sampleLeased.translateAs 5 .ipv4 sampleExceeded).1 = .ok (.forward d) := ⟨_, rfl⟩
  have hquotes : Quotes .ipv4 sampleExceeded sampleFront := ⟨_, rfl, rfl, rfl, rfl⟩
  exact ⟨d, hforward, error_carried hquotes hforward⟩

end Gateway

end Nat64
