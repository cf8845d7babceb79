import Nat64.Proofs.Machine.Forwarding

/-!
# Which packets are answered

A packet from IPv6 that has no hops left is answered by an error, and that is the only thing that is ever answered. No
error is answered by another, and none goes to or comes from more than one host; such a packet is dropped in silence.

* `IPv6.Answerable`: packets that an error may answer.
* `Forwarding.reply_of_answerable`, `Forwarding.drop_of_unanswerable`: what becomes of a packet without hops.
* `Machine.translateIPv6_quoted_no_reply`, `Machine.translateIPv4_quoted_no_reply`: quoted datagrams are never answered.
* `Gateway.answers_expired`: which packets the gateway answers, and how.
-/

namespace Nat64

/-! ## Packets that may be answered -/

/-- An error may answer a packet: it is no error itself, one host sent it, and it went to one host. -/
structure IPv6.Answerable (h : IPv6.Header) (message : Bytes) : Prop where
  no_error : h.nextHeader = (Protocol.icmp .ipv6).number → ∀ type ∈ message.head?, 128 ≤ type.toNat
  specified : ¬ h.src.IsUnspecified
  one_sender : ¬ h.src.IsMulticast
  one_receiver : ¬ h.dst.IsMulticast

namespace Forwarding

variable {p : Prefix} {now : Nat} {t t' : LeaseTable} {packet message : Bytes} {h : IPv6.Header} {d : Datagram}

theorem any_isError_iff :
    (message.head?.any (Icmp.isError .ipv6)) = true ↔ ¬ ∀ type ∈ message.head?, 128 ≤ type.toNat := by
  cases message with
  | nil => simp
  | cons type rest => simp [Icmp.isError_ipv6]

theorem isUnanswerable_eq_false {read : IPv6.Packet} :
    isUnanswerable read = false ↔ IPv6.Answerable read.header read.payload := by
  simp only [isUnanswerable, any_isError_iff, decide_eq_false_iff_not, not_or, not_and, not_not]
  exact ⟨fun ⟨hno, hsome, hone, hto⟩ => ⟨hno, hsome, hone, hto⟩, fun ⟨hno, hsome, hone, hto⟩ => ⟨hno, hsome, hone, hto⟩⟩

theorem exists_timeExceeded {read : IPv6.Packet} (h : isUnanswerable read = false) :
    ∃ d, timeExceeded? read = some d := by
  simp [timeExceeded?, h]

/-! ## Packets without hops -/

/-- The message about a packet without hops. -/
theorem message_timeExceeded (pseudo rest : Bytes) : ∃ checksum,
    (Icmp.Counterpart.error 3 0).message pseudo rest = [3, 0] ++ (Bytes.ofWord checksum ++ ([0, 0, 0, 0] ++ rest)) := by
  refine ⟨Checksum.ofBytes (pseudo ++ (((Icmp.Counterpart.error 3 0).header 0).encode ++ rest)), ?_⟩
  have hzeros : Bytes.ofNat 4 (0 : UInt32).toNat = [0, 0, 0, 0] := by decide
  rw [Icmp.Counterpart.message, Icmp.Header.encode_eq, List.append_assoc, List.append_assoc, ← hzeros]
  rfl

/-- A packet without hops that may be answered is answered, and the answer quotes as much of it as passes every link. -/
theorem reply_of_answerable (hopens : IPv6.Opens packet h message) (hhops : h.hopLimit ≤ 1)
    (hanswerable : IPv6.Answerable h message) :
    let quoted := packet.take (min (40 + message.length) 1232)
    let out := answerHeader h (8 + quoted.length)
    ∃ d checksum, toIPv4 p now packet t = (.ok (.reply d), t) ∧ d.destination = .ipv6 h.src ∧
      d.body.bytes = out.encode ++ ([3, 0] ++ (Bytes.ofWord checksum ++ ([0, 0, 0, 0] ++ quoted))) ∧
      d.body.bytes.length = min (48 + (40 + message.length)) 1280 ∧
      Checksum.Verifies (Checksum.pseudoHeader6 h.dst h.src 58 (d.body.bytes.length - 40) ++ d.body.bytes.drop 40) := by
  intro quoted out
  obtain ⟨read, hread, rfl, rfl, hlength⟩ := hopens.decode .outer
  obtain ⟨d, hanswer⟩ := exists_timeExceeded (isUnanswerable_eq_false.2 hanswerable)
  obtain ⟨-, hdestination, -, hbytes⟩ := timeExceeded?_eq_some hanswer
  obtain ⟨hheader, hall, hread'⟩ := IPv6.Packet.decode_eq_ok.1 hread
  have hfront : read.bytes.take 1232 = quoted := by
    rw [hread', List.take_take, Nat.min_comm, hlength]
    rfl
  have hquoted : quoted.length = min (40 + read.payload.length) 1232 := by
    have hwhole : 40 + read.payload.length ≤ packet.length := hlength ▸ hall rfl
    rw [List.length_take]
    omega
  rw [hfront] at hbytes
  have hfits : 8 + quoted.length < 0x10000 := by omega
  obtain ⟨hsize, -, hverifies⟩ := (Icmp.Counterpart.error 3 0).behind_ipv6 hfits rfl hbytes
  obtain ⟨checksum, hmessage⟩ :=
    message_timeExceeded (Checksum.pseudoHeader6 out.src out.dst 58 (8 + quoted.length)) quoted
  refine ⟨d, checksum, ?_, hdestination, hbytes.trans (congrArg (out.encode ++ ·) hmessage), ?_, hverifies⟩
  · rw [toIPv4_expired hread hhops, hanswer]
  · rw [hsize, hquoted]
    omega

/-- A packet without hops that may not be answered is dropped for that, whatever it carries. -/
theorem drop_of_unanswerable (hopens : IPv6.Opens packet h message) (hhops : h.hopLimit ≤ 1)
    (hunanswerable : ¬ IPv6.Answerable h message) : toIPv4 p now packet t = (.error (.drop .expired), t) := by
  obtain ⟨read, hread, rfl, rfl, -⟩ := hopens.decode .outer
  have hsilent : timeExceeded? read = none := by
    rw [Option.eq_none_iff_forall_ne_some]
    intro d hanswer
    exact hunanswerable (isUnanswerable_eq_false.1 (timeExceeded?_eq_some hanswer).1)
  rw [toIPv4_expired hread hhops, hsilent]

/-- No other packet is answered. -/
theorem answerable_of_reply (hreply : toIPv4 p now packet t = (.ok (.reply d), t')) :
    ∃ h message, IPv6.Opens packet h message ∧ h.hopLimit ≤ 1 ∧ IPv6.Answerable h message := by
  obtain ⟨read, hread, hhops, hanswer, -⟩ := toIPv4_eq_reply.1 hreply
  have hanswerable := isUnanswerable_eq_false.1 (timeExceeded?_eq_some hanswer).1
  exact ⟨read.header, read.payload, IPv6.Packet.opens hread, hhops, hanswerable⟩

/-! ## Packets that are never answered -/

theorem toIPv6_ne_reply : toIPv6 p now packet t ≠ (.ok (.reply d), t') := by
  intro hreply
  obtain ⟨_, _, _, _, _, _, hd, -⟩ := toIPv6_eq_ok.1 hreply
  cases hd

theorem quotedToIPv4_ne_reply : quotedToIPv4 p now packet t ≠ (.ok (.reply d), t') := by
  intro hreply
  simp only [quotedToIPv4, bind_eq_ok, pure_eq_ok] at hreply
  obtain ⟨_, _, -, _, _, -, _, _, -, _, _, -, hd, -⟩ := hreply
  cases hd

theorem quotedToIPv6_ne_reply : quotedToIPv6 p now packet t ≠ (.ok (.reply d), t') := by
  intro hreply
  simp only [quotedToIPv6, bind_eq_ok, pure_eq_ok] at hreply
  obtain ⟨_, _, -, _, _, -, _, _, -, hd, -⟩ := hreply
  cases hd

end Forwarding

namespace Machine

variable {p : Prefix} {now : Nat} {t t' : LeaseTable} {data : Bytes} {d : Datagram} {inner : Bytes → StepM Outcome}

/-- A quoted datagram from IPv6 is not answered, however few hops it has left. -/
theorem translateIPv6_quoted_no_reply : translateIPv6 now inner .quoted data t ≠ .ok (.ok (.reply d), t') := by
  intro hreply
  rw [translateIPv6_quoted Prefix.wellKnown now inner data t, Except.ok.injEq] at hreply
  exact Forwarding.quotedToIPv4_ne_reply hreply

theorem translateIPv4_quoted_no_reply : translateIPv4 p now inner .quoted data t ≠ .ok (.ok (.reply d), t') := by
  intro hreply
  rw [translateIPv4_quoted p now inner data t, Except.ok.injEq] at hreply
  exact Forwarding.quotedToIPv6_ne_reply hreply

end Machine

/-! ## The gateway -/

namespace Gateway

variable {g : Gateway} {now : Nat} {packet message : Bytes} {h : IPv6.Header} {d : Datagram}

theorem translateAs_ipv4_ne_reply : (g.translateAs now .ipv4 packet).1 ≠ .ok (.reply d) := by
  intro hreply
  have hdrop : ∀ reason, Outcome.reply d ≠ .drop reason := fun _ => Outcome.noConfusion
  exact Forwarding.toIPv6_ne_reply ((Forwarding.settle_fst_eq_ok hdrop).1 hreply)

/-- What is answered leaves the gateway as it is. -/
theorem translate_of_reply (hopens : IPv6.Opens packet h message)
    (hreply : Forwarding.toIPv4 g.embedding now packet g.leases = (.ok (.reply d), g.leases)) :
    g.translate now packet = (.ok (.reply d), g) := by
  rw [translate_of_family (IPv6.Header.family?_of_decode hopens.header_eq), translateAs_of_toIPv4 hreply]

/-- Only a packet without hops that may be answered is answered. -/
theorem answerable_of_translate (hreply : (g.translate now packet).1 = .ok (.reply d)) :
    ∃ h message, IPv6.Opens packet h message ∧ h.hopLimit ≤ 1 ∧ IPv6.Answerable h message := by
  rcases hfamily : Frame.family? packet with _ | family
  · rw [translate, hfamily] at hreply
    cases hversion : Frame.version? packet <;> rw [hversion] at hreply <;> cases hreply
  · rw [translate_of_family hfamily] at hreply
    cases family with
    | ipv4 => exact absurd hreply translateAs_ipv4_ne_reply
    | ipv6 =>
      have hdrop : ∀ reason, Outcome.reply d ≠ .drop reason := fun _ => Outcome.noConfusion
      exact Forwarding.answerable_of_reply ((Forwarding.settle_fst_eq_ok hdrop).1 hreply)

/-- A packet is answered exactly if it is a whole packet from IPv6 without hops that an error may answer; no packet from
IPv4 and no quoted datagram ever is. The answer comes from where the packet was going, quotes the front of it unchanged,
is as long as that makes it, and its checksum verifies. Every other packet from IPv6 without hops is dropped for that.
Either way the gateway stays as it is. -/
theorem answers_expired (g : Gateway) (now : Nat) (packet : Bytes) :
    ((∃ d, (g.translate now packet).1 = .ok (.reply d)) ↔
      ∃ h message, IPv6.Opens packet h message ∧ h.hopLimit ≤ 1 ∧ IPv6.Answerable h message) ∧
    (∀ d, (g.translateAs now .ipv4 packet).1 ≠ .ok (.reply d)) ∧
    (∀ inner t t' d, Machine.translateIPv6 now inner .quoted packet t ≠ .ok (.ok (.reply d), t')) ∧
    (∀ inner t t' d, Machine.translateIPv4 g.embedding now inner .quoted packet t ≠ .ok (.ok (.reply d), t')) ∧
    ∀ h message, IPv6.Opens packet h message → h.hopLimit ≤ 1 →
      (IPv6.Answerable h message →
        let quoted := packet.take (min (40 + message.length) 1232)
        let out : IPv6.Header :=
          { trafficClass := 0, flowLabel := 0, payloadLength := UInt16.ofNat (8 + quoted.length)
            nextHeader := 58, hopLimit := 64, src := h.dst, dst := h.src }
        ∃ d checksum, g.translate now packet = (.ok (.reply d), g) ∧ d.destination = .ipv6 h.src ∧
          d.body.bytes = out.encode ++ ([3, 0] ++ (Bytes.ofWord checksum ++ ([0, 0, 0, 0] ++ quoted))) ∧
          d.body.bytes.length = min (48 + (40 + message.length)) 1280 ∧
          Checksum.Verifies
            (Checksum.pseudoHeader6 h.dst h.src 58 (d.body.bytes.length - 40) ++ d.body.bytes.drop 40)) ∧
      (¬ IPv6.Answerable h message → g.translate now packet = (.ok (.drop .expired), g)) := by
  refine ⟨⟨?_, ?_⟩, fun _ => translateAs_ipv4_ne_reply, fun _ _ _ _ => Machine.translateIPv6_quoted_no_reply,
    fun _ _ _ _ => Machine.translateIPv4_quoted_no_reply, fun h message hopens hhops => ⟨?_, ?_⟩⟩
  · rintro ⟨d, hreply⟩
    exact answerable_of_translate hreply
  · rintro ⟨h, message, hopens, hhops, hanswerable⟩
    obtain ⟨d, _, hreply, -⟩ := Forwarding.reply_of_answerable hopens hhops hanswerable
    exact ⟨d, congrArg Prod.fst (translate_of_reply hopens hreply)⟩
  · intro hanswerable quoted out
    obtain ⟨d, checksum, hreply, hcontent⟩ := Forwarding.reply_of_answerable hopens hhops hanswerable
    exact ⟨d, checksum, translate_of_reply hopens hreply, hcontent⟩
  · intro hunanswerable
    rw [translate_of_family (IPv6.Header.family?_of_decode hopens.header_eq)]
    simp only [translateAs, Forwarding.settle, Forwarding.drop_of_unanswerable hopens hhops hunanswerable]

/-- An ICMPv6 message without hops from `2001:db8::1` to `64:ff9b::203.0.113.5` that has only a type. -/
def sampleType (type : UInt8) : Bytes :=
  [0x60, 0, 0, 0, 0, 1, 58, 0,
    0x20, 0x01, 0x0d, 0xb8, 0, 0, 0, 0, 0, 0, 0, 0, 0, 0, 0, 1,
    0, 0x64, 0xff, 0x9b, 0, 0, 0, 0, 0, 0, 0, 0, 203, 0, 113, 5, type]

set_option maxRecDepth 4000 in
/-- The shortest echo request is answered, the shortest error is not. -/
theorem answers_expired_samples :
    (∃ d, (sampleLeased.translate 5 (sampleType 128)).1 = .ok (.reply d) ∧ d.body.bytes.length = 89 ∧
      d.body.bytes.drop 48 = sampleType 128) ∧
    sampleLeased.translate 5 (sampleType 1) = (.ok (.drop .expired), sampleLeased) := by
  constructor
  · have hopens : IPv6.Opens (sampleType 128) (IPv6.Header.ofBytes (sampleType 128)) [128] := ⟨rfl, rfl, rfl⟩
    obtain ⟨-, -, -, -, hexpired⟩ := answers_expired sampleLeased 5 (sampleType 128)
    obtain ⟨hreply, -⟩ := hexpired _ _ hopens (by decide)
    have hanswerable : IPv6.Answerable (IPv6.Header.ofBytes (sampleType 128)) [128] :=
      ⟨fun _ => by decide, by decide, by decide, by decide⟩
    obtain ⟨d, checksum, htranslate, -, hbytes, hlength, -⟩ := hreply hanswerable
    refine ⟨d, congrArg Prod.fst htranslate, hlength, ?_⟩
    rw [hbytes, ← List.drop_drop (i := 8) (j := 40), List.drop_left' (IPv6.Header.length_encode _)]
    rfl
  · have hopens : IPv6.Opens (sampleType 1) (IPv6.Header.ofBytes (sampleType 1)) [1] := ⟨rfl, rfl, rfl⟩
    obtain ⟨-, -, -, -, hexpired⟩ := answers_expired sampleLeased 5 (sampleType 1)
    obtain ⟨-, hdrop⟩ := hexpired _ _ hopens (by decide)
    exact hdrop fun hanswerable => absurd (hanswerable.no_error rfl 1 rfl) (by decide)

end Gateway

end Nat64
