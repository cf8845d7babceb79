import Nat64.Proofs.Forwarding.Effect
import Nat64.Proofs.Forwarding.Internal

/-!
# Leases that a packet from IPv4 names

No packet from IPv4 is worth an address. It may renew the lease on the address that it is sent to, and if it is an
error, the lease on the address that the quoted datagram came from. Nothing else about the table changes, however far
the packet gets, and no other lease has a say in what becomes of it.

* `LeaseTable.Renewed`: a table in which leases were renewed and nothing else was done.
* `Forwarding.Names`: the addresses whose leases the packet names.
* `Forwarding.LooksAt`: steps that see, renew and miss no leases but those on some addresses; `looksAt_toIPv6`: a packet
  from IPv4 looks at those that it names.
* `Session.leases_only_renewed`: what a packet from IPv4 leaves of the table, in every state of every session.
-/

namespace Nat64

/-! ## Renewed leases -/

/-- A lease stays as it is, or is on one of the addresses and renewed. -/
def Lease.Renews (now : Nat) (P : IPv4 → Prop) (l l' : Lease) : Prop :=
  l' = l ∨ P l.address ∧ l' = { l with lastUsed := now }

namespace Lease.Renews

variable {now : Nat} {P : IPv4 → Prop} {l l' l'' : Lease}

theorem address_eq (h : l.Renews now P l') : l'.address = l.address := by
  rcases h with rfl | ⟨-, rfl⟩ <;> rfl

theorem host_eq (h : l.Renews now P l') : l'.host = l.host := by
  rcases h with rfl | ⟨-, rfl⟩ <;> rfl

theorem eq_of_not (h : l.Renews now P l') (hl : ¬ P l.address) : l' = l := by
  rcases h with rfl | ⟨hP, -⟩
  · rfl
  · exact absurd hP hl

theorem trans (h : l.Renews now P l') (h' : l'.Renews now P l'') : l.Renews now P l'' := by
  rcases h' with rfl | ⟨hP, rfl⟩
  · exact h
  · rw [h.address_eq] at hP
    rcases h with rfl | ⟨-, rfl⟩
    · exact Or.inr ⟨hP, rfl⟩
    · exact Or.inr ⟨hP, rfl⟩

end Lease.Renews

/-- Leases on some of the addresses are renewed, and nothing else is done: the same addresses are free, the same hosts
hold the same addresses, in the same order. -/
structure LeaseTable.Renewed (now : Nat) (P : IPv4 → Prop) (t t' : LeaseTable) : Prop where
  expiry : t'.expiry = t.expiry
  free : t'.free = t.free
  configured : t'.configured = t.configured
  addresses : t'.addresses = t.addresses
  leases : List.Forall₂ (Lease.Renews now P) t.leases t'.leases

namespace LeaseTable

variable {now : Nat} {P : IPv4 → Prop} {t t' t'' : LeaseTable} {a : IPv4}

namespace Renewed

theorem refl (now : Nat) (P : IPv4 → Prop) (t : LeaseTable) : t.Renewed now P t :=
  ⟨rfl, rfl, rfl, rfl, List.forall₂_same.2 fun _ _ => Or.inl rfl⟩

theorem trans (h : t.Renewed now P t') (h' : t'.Renewed now P t'') : t.Renewed now P t'' where
  expiry := h'.expiry.trans h.expiry
  free := h'.free.trans h.free
  configured := h'.configured.trans h.configured
  addresses := h'.addresses.trans h.addresses
  leases := by
    obtain ⟨-, -, -, -, hs⟩ := h
    obtain ⟨-, -, -, -, hs'⟩ := h'
    generalize t.leases = ls at hs ⊢
    generalize t'.leases = ls' at hs hs'
    generalize t''.leases = ls'' at hs' ⊢
    induction hs generalizing ls'' with
    | nil => simpa using hs'
    | cons hl _ ih =>
      cases hs' with
      | cons hl' hrest => exact .cons (hl.trans hl') (ih _ hrest)

/-- The same hosts hold the same addresses. -/
theorem pairs (h : t.Renewed now P t') :
    t'.leases.map (fun l => (l.address, l.host)) = t.leases.map fun l => (l.address, l.host) := by
  obtain ⟨-, -, -, -, hs⟩ := h
  generalize t.leases = ls at hs ⊢
  generalize t'.leases = ls' at hs ⊢
  induction hs with
  | nil => rfl
  | cons hl _ ih => simp [hl.address_eq, hl.host_eq, ih]

/-- Where there was a lease there is one, and it is the same or a renewed one. -/
theorem leaseOn? (h : t.Renewed now P t') (a : IPv4) :
    Option.Rel (Lease.Renews now P) (t.leaseOn? a) (t'.leaseOn? a) := by
  obtain ⟨-, -, -, -, hs⟩ := h
  unfold LeaseTable.leaseOn?
  generalize t.leases = ls at hs ⊢
  generalize t'.leases = ls' at hs ⊢
  induction hs with
  | nil => exact .none
  | @cons l l' _ _ hl _ ih =>
    by_cases ha : l.address = a
    · simpa [ha, hl.address_eq] using Option.Rel.some hl
    · simpa [ha, hl.address_eq] using ih

theorem holderOf?_eq (h : t.Renewed now P t') (a : IPv4) : t'.holderOf? a = t.holderOf? a := by
  unfold holderOf?
  have hrel := h.leaseOn? a
  generalize t.leaseOn? a = found at hrel ⊢
  generalize t'.leaseOn? a = found' at hrel ⊢
  cases hrel with
  | none => rfl
  | some hl => exact congrArg some hl.host_eq

theorem leaseOn?_of_not (h : t.Renewed now P t') (ha : ¬ P a) : t'.leaseOn? a = t.leaseOn? a := by
  have hrel := h.leaseOn? a
  have haddress (l : Lease) (hl : t.leaseOn? a = some l) : l.address = a := by simpa using List.find?_some hl
  generalize t.leaseOn? a = found at hrel haddress ⊢
  generalize t'.leaseOn? a = found' at hrel ⊢
  cases hrel with
  | none => rfl
  | @some l _ hl => rw [hl.eq_of_not (haddress l rfl ▸ ha)]

end Renewed

theorem renewed_renew (ha : P a) (now : Nat) (t : LeaseTable) : t.Renewed now P (t.renew now a) := by
  refine ⟨rfl, rfl, rfl, rfl, ?_⟩
  show List.Forall₂ _ _ (t.leases.map _)
  rw [List.forall₂_map_right_iff, List.forall₂_same]
  intro l _
  split
  · rename_i hl
    exact Or.inr ⟨hl ▸ ha, rfl⟩
  · exact Or.inl rfl

theorem renewed_findHolder (ha : P a) (now : Nat) (t : LeaseTable) : t.Renewed now P (t.findHolder now a).2 := by
  unfold findHolder
  split
  · exact renewed_renew ha now t
  · exact Renewed.refl now P t

end LeaseTable

/-! ## The leases that a packet from IPv4 names -/

namespace Forwarding

/-- A packet from IPv4 is addressed to an address, or quotes a datagram that was sent from there. -/
inductive Names (packet : Bytes) : IPv4 → Prop
  | receiver {h : IPv4.Header} (hheader : IPv4.Header.decode packet = .ok h) : Names packet h.dst
  | quotedSender {quote : Bytes} {h : IPv4.Header} (hquotes : Quotes .ipv4 packet quote)
      (hheader : IPv4.Header.decode quote = .ok h) : Names packet h.src

/-- A step takes no notice of the leases on any other addresses. It renews some on these, and does nothing else to the
table; and if it finds that an address is not leased, then it is one of these. -/
structure LooksAt {α : Type} (now : Nat) (P : IPv4 → Prop) (step : ForwardM α) : Prop where
  same : ∀ t u : LeaseTable, (∀ a, P a → u.holderOf? a = t.holderOf? a) → (step u).1 = (step t).1
  renewed : ∀ t : LeaseTable, t.Renewed now P (step t).2
  missing : ∀ t a, (step t).1 = .error (.fault (.noLease a)) → P a ∧ t.holderOf? a = none

section Looking

variable {α β : Type} {P : IPv4 → Prop} {p : Prefix} {now : Nat} {packet quote : Bytes}

theorem LooksAt.others {step : ForwardM α} (h : LooksAt now P step) (t : LeaseTable) (a : IPv4) (ha : ¬ P a) :
    (step t).2.leaseOn? a = t.leaseOn? a := (h.renewed t).leaseOn?_of_not ha

theorem looksAt_pure (a : α) : LooksAt now P (pure a : ForwardM α) where
  same _ _ _ := rfl
  renewed t := LeaseTable.Renewed.refl now P t
  missing _ _ h := nomatch h

theorem looksAt_lift {r : Except Refusal α} (hr : EndsIn Refusal.Intrinsic r) :
    LooksAt now P (liftM r : ForwardM α) where
  same _ _ _ := rfl
  renewed t := LeaseTable.Renewed.refl now P t
  missing _ _ h := nomatch (hr _ h).notLookup

theorem looksAt_liftFault {r : Except Fault α} (hr : EndsIn Fault.Intrinsic r) : LooksAt now P (liftM r : ForwardM α) :=
  looksAt_lift hr.refusal

theorem looksAt_bind {x : ForwardM α} {f : α → ForwardM β} (hx : LooksAt now P x)
    (hf : ∀ a t s, x t = (.ok a, s) → LooksAt now P (f a)) : LooksAt now P (x >>= f) where
  same t u h := by
    have hsame := hx.same t u h
    -- no step changes a holder, so the second one runs on tables that still agree
    have hholders (a : IPv4) (ha : P a) : (x u).2.holderOf? a = (x t).2.holderOf? a := by
      rw [(hx.renewed u).holderOf?_eq, (hx.renewed t).holderOf?_eq, h a ha]
    rw [bind_apply, bind_apply]
    rcases ht : x t with ⟨r | a, s⟩ <;> rcases hu : x u with ⟨r' | a', s'⟩ <;> rw [ht, hu] at hsame hholders
    · cases hsame
      rfl
    · cases hsame
    · cases hsame
    · cases hsame
      exact (hf a t s ht).same s s' hholders
  renewed t := by
    have hrenewed := hx.renewed t
    rw [bind_apply]
    rcases ht : x t with ⟨r | a, s⟩ <;> rw [ht] at hrenewed
    · exact hrenewed
    · exact hrenewed.trans ((hf a t s ht).renewed s)
  missing t b h := by
    have hrenewed := hx.renewed t
    have hmissing := hx.missing t b
    rw [bind_apply] at h
    rcases ht : x t with ⟨r | a, s⟩ <;> rw [ht] at h hrenewed hmissing
    · cases h
      exact hmissing rfl
    · obtain ⟨hb, hnone⟩ := (hf a t s ht).missing s b h
      exact ⟨hb, (hrenewed.holderOf?_eq b).symm.trans hnone⟩

theorem looksAt_findHolder {a : IPv4} (ha : P a) (now : Nat) : LooksAt now P (findHolder now a) where
  same t u h := by
    show (((u.findHolder now a).1.mapError .fault, (u.findHolder now a).2) : Except Refusal IPv6 × LeaseTable).1
      = ((t.findHolder now a).1.mapError .fault, (t.findHolder now a).2).1
    unfold LeaseTable.findHolder
    rw [h a ha]
    cases t.holderOf? a <;> rfl
  renewed t := LeaseTable.renewed_findHolder ha now t
  missing t b h := by
    replace h : ((t.findHolder now a).1.mapError .fault : Except Refusal IPv6) = .error (.fault (.noLease b)) := h
    unfold LeaseTable.findHolder at h
    rcases hholder : t.holderOf? a with _ | host <;> rw [hholder] at h <;> cases h
    exact ⟨ha, hholder⟩

theorem looksAt_resolve6 (level : Level) {h : IPv4.Header} (ha : P (leased4 level h)) :
    LooksAt now P (resolve6 p now level h) := by
  cases level with
  | outer => exact looksAt_bind (looksAt_findHolder ha now) fun _ _ _ _ => looksAt_pure _
  | quoted => exact looksAt_bind (looksAt_findHolder ha now) fun _ _ _ _ => looksAt_pure _

theorem looksAt_quoteIPv6 (hquotes : Quotes .ipv4 packet quote) :
    LooksAt now (Names packet) (quoteIPv6 p now quote) := by
  refine looksAt_bind (looksAt_lift (endsIn_admit4 _ _)) fun admitted t s hadm => ?_
  obtain ⟨read, content⟩ := admitted
  have hread := (admit4_eq_ok.1 (lift_eq_ok.1 hadm).1).1
  have hheader := (IPv4.Packet.decode_eq_ok.1 hread).1
  have hlength := Nat.le_of_lt_succ (IPv4.Packet.payloadLength_lt hread)
  exact looksAt_bind (looksAt_resolve6 .quoted (.quotedSender hquotes hheader)) fun _ _ _ _ =>
    looksAt_liftFault (endsIn_wrap6 _ _ _ _ _ hlength _)

/-- What an error that was admitted quotes. -/
theorem quotes_of_admitted {read : IPv4.Packet} {h : Icmp.Header} {c : Icmp.Counterpart}
    (hadm : admit4 .outer packet = .ok (read, .message h c)) (hnature : c.nature = .error) :
    Quotes .ipv4 packet (read.payload.drop Icmp.Header.size) := by
  obtain ⟨hread, -, -, hcontent⟩ := admit4_eq_ok.1 hadm
  obtain ⟨hheader, -, -, hpayload⟩ := IPv4.Packet.decode_eq_ok.1 hread
  obtain ⟨hnumber, -, rfl, hcounterpart⟩ := classify_outer_eq_message.1 hcontent
  rw [hpayload] at hcounterpart ⊢
  exact ⟨_, hheader, hnumber, Icmp.isError_of_nature hcounterpart hnature, rfl⟩

/-- Only an error looks at a second lease. -/
theorem looksAt_messageBody6 {read : IPv4.Packet} {h : Icmp.Header} {c : Icmp.Counterpart}
    (hadm : admit4 .outer packet = .ok (read, .message h c)) :
    LooksAt now (Names packet) (messageBody6 p now c (read.payload.drop Icmp.Header.size)) := by
  unfold messageBody6
  split
  · exact looksAt_pure _
  · rename_i hnature
    exact looksAt_bind (looksAt_quoteIPv6 (quotes_of_admitted hadm hnature)) fun _ _ _ _ => looksAt_pure _

theorem looksAt_body6 {read : IPv4.Packet} {content : Content} (hadm : admit4 .outer packet = .ok (read, content))
    (src dst : IPv6) : LooksAt now (Names packet) (body6 p now read content src dst) := by
  cases content with
  | transport k => exact looksAt_liftFault (endsIn_transportBody k _ _)
  | message h c =>
    refine looksAt_bind (looksAt_messageBody6 hadm) fun body t s hbody => ?_
    exact looksAt_liftFault (endsIn_sealMessage (startsWith_messageBody6 hbody) _)

theorem looksAt_toIPv6 (p : Prefix) (now : Nat) (packet : Bytes) :
    LooksAt now (Names packet) (toIPv6 p now packet) := by
  refine looksAt_bind (looksAt_lift (endsIn_admit4 _ _)) fun admitted t s hadm => ?_
  obtain ⟨read, content⟩ := admitted
  have hadm := (lift_eq_ok.1 hadm).1
  have hread := (admit4_eq_ok.1 hadm).1
  have hheader := (IPv4.Packet.decode_eq_ok.1 hread).1
  refine looksAt_bind (looksAt_resolve6 .outer (.receiver hheader)) fun resolved t s _ => ?_
  obtain ⟨src, dst⟩ := resolved
  refine looksAt_bind (looksAt_body6 hadm src dst) fun body t s hbody => ?_
  exact looksAt_bind (looksAt_liftFault (endsIn_wrap6 _ _ _ _ _ (within_body6 hread hbody).size_le _))
    fun _ _ _ _ => looksAt_pure _

/-- What is settled is a matter of the result. -/
theorem settle_fst_congr {step : ForwardM Outcome} {t u : LeaseTable} (h : (step u).1 = (step t).1) :
    (settle step u).1 = (settle step t).1 := by
  unfold settle
  rcases ht : step t with ⟨(r | f) | o, s⟩ <;> rcases hu : step u with ⟨r', s'⟩ <;> rw [ht, hu] at h <;> cases h <;> rfl

theorem settle_fst_eq_error {step : ForwardM Outcome} {t : LeaseTable} {f : Fault} :
    (settle step t).1 = .error f ↔ (step t).1 = .error (.fault f) := by
  unfold settle
  rcases step t with ⟨(r | f') | o, s⟩ <;> simp

end Looking

end Forwarding

/-! ## Every session -/

namespace Session

variable {σ : Type}

/-- In every state of every session, whatever becomes of a packet from IPv4: of the gateway only the leases
change, the same addresses stay free, the same hosts keep the same addresses, and no lease is renewed but those on
the addresses that the packet names. If it is refused because an address is not leased, then it names this
address, and no host holds it. -/
theorem leases_only_renewed (p : Prefix) (expiry : Nat) (device : σ) (ops : List (Operation σ)) (packet : Bytes) :
    let s := (start p expiry device).run ops
    let after := (s.gateway.translateAs s.now .ipv4 packet).2
    after = { s.gateway with leases := after.leases } ∧
    s.leases.Renewed s.now (Forwarding.Names packet) after.leases ∧
    after.leases.leases.map (fun l => (l.address, l.host)) = s.leases.leases.map (fun l => (l.address, l.host)) ∧
    ∀ a, (s.gateway.translateAs s.now .ipv4 packet).1 = .error (.noLease a) →
      Forwarding.Names packet a ∧ s.leases.leaseOn? a = none ∧ ∀ host, s.leases.addressOf? host ≠ some a := by
  intro s after
  have hlooks := Forwarding.looksAt_toIPv6 s.gateway.embedding s.now packet
  have hrenewed : s.leases.Renewed s.now (Forwarding.Names packet) after.leases := by
    show s.leases.Renewed s.now _ (Forwarding.settle _ s.leases).2
    rw [Forwarding.settle_snd]
    exact hlooks.renewed s.leases
  refine ⟨rfl, hrenewed, hrenewed.pairs, ?_⟩
  intro a hfault
  obtain ⟨hnames, hnone⟩ := hlooks.missing s.leases a (Forwarding.settle_fst_eq_error.1 hfault)
  have hunleased : s.leases.leaseOn? a = none := Option.map_eq_none_iff.1 hnone
  refine ⟨hnames, hunleased, ?_⟩
  intro host hheld
  have hsound : s.Sound := sound_run (sound_start p expiry device) ops
  obtain ⟨l, hl, ha, -⟩ := hsound.addressOf?_eq_some.1 hheld
  rw [hsound.leaseOn?_eq_some.2 ⟨hl, ha⟩] at hunleased
  cases hunleased

/-- The front of a UDP datagram from `192.0.2.2` to `203.0.113.5`. -/
def sampleSent4 : Bytes :=
  [0x45, 0, 0, 28, 0, 0, 0, 0, 63, 17, 0, 0, 192, 0, 2, 2, 203, 0, 113, 5, 0x30, 0x39, 0, 53, 0, 8, 0x12, 0x34]

/-- An error from `203.0.113.9` to an address in `192.0.2.0/24` that quotes it. -/
def sampleNews4 (receiver : UInt8) : Bytes :=
  [0x45, 0, 0, 56, 0, 0, 0, 0, 64, 1, 0, 0, 203, 0, 113, 9, 192, 0, 2, receiver, 3, 3, 0, 0, 0, 0, 0, 0] ++ sampleSent4

/-- The host `2001:db8::1` leases `192.0.2.1`, five seconds pass, and nobody leases `192.0.2.2`. -/
def sampleAlone : List (Operation Unit) :=
  [.addRange (IPv4.ofNat 0xc0000201) (IPv4.ofNat 0xc0000202),
    .leaseFor (IPv6.ofNat 0x20010db8000000000000000000000001), .wait 5000000000]

set_option maxRecDepth 4000 in
/-- An error for `2001:db8::1` renews its lease before it turns out that nobody sent the quoted datagram. -/
theorem leases_only_renewed_sample :
    let s := (start Prefix.wellKnown 1800000000000 ()).run sampleAlone
    let after := (s.gateway.translateAs s.now .ipv4 (sampleNews4 1)).2
    (s.gateway.translateAs s.now .ipv4 (sampleNews4 1)).1 = .error (.noLease (IPv4.ofNat 0xc0000202)) ∧
    Forwarding.Names (sampleNews4 1) (IPv4.ofNat 0xc0000202) ∧ s.leases.leaseOn? (IPv4.ofNat 0xc0000202) = none ∧
    after.leases.free = s.leases.free ∧
    (s.leases.leaseOn? (IPv4.ofNat 0xc0000201)).map (·.lastUsed) = some 0 ∧
    (after.leases.leaseOn? (IPv4.ofNat 0xc0000201)).map (·.lastUsed) = some 5000000000 := by
  intro s after
  obtain ⟨-, hrenewed, -, hmissing⟩ :=
    leases_only_renewed Prefix.wellKnown 1800000000000 () sampleAlone (sampleNews4 1)
  have hfault : (s.gateway.translateAs s.now .ipv4 (sampleNews4 1)).1 = .error (.noLease (IPv4.ofNat 0xc0000202)) := rfl
  obtain ⟨hnames, hnone, -⟩ := hmissing _ hfault
  exact ⟨hfault, hnames, hnone, hrenewed.free, rfl, rfl⟩

end Session

end Nat64
