import Nat64.Proofs.Assembly
import Nat64.Proofs.Forwarding.Lookups
import Nat64.Proofs.Holding
import Nat64.Proofs.Session

/-!
# The return path

A host that has sent a packet can be reached at the address it was given until the expiry has passed since the last
look at its lease, whatever else happens to the gateway in the meantime.

* `Session.Holds s host a since`: the lease is in use.
* `Session.Holds.step`, `Session.Holds.lookUp`: it stays in use, and a look at it counts anew.
* `KeptAlive`: runs that look at the lease often enough.
* `Session.Reachable`: what the host can rely on.
* `Session.run_return`: it can rely on it after every such run.
-/

namespace Nat64

open Forwarding

/-! ## Looks at a lease -/

/-- A packet of a family looks at the lease of an address to a host. -/
def LeaseTable.Asks (t : LeaseTable) (now : Nat) (host : IPv6) (a : IPv4) : Family → Bytes → Prop
  | .ipv4, packet => Asks4 now t packet a
  | .ipv6, packet => Asks6 now t packet host

variable {σ : Type}

/-- An operation looks at the lease of an address to a host. -/
def Operation.LooksUp (s : Session σ) (host : IPv6) (a : IPv4) : Operation σ → Prop
  | .leaseFor host' => host' = host
  | .findHolder a' => a' = a
  | .translateAs family packet => s.leases.Asks s.now host a family packet
  | .translate packet | .process _ packet | .handle _ packet =>
    ∃ family, Frame.family? packet = some family ∧ s.leases.Asks s.now host a family packet
  | .addNetwork _ | .addRange _ _ | .reserve _ | .reclaim | .wait _ | .switch _ => False

/-- Runs in which the clock never passes the expiry after the last look at a lease. -/
inductive KeptAlive (host : IPv6) (a : IPv4) (expiry : Nat) : Session σ → Nat → List (Operation σ) → Prop
  | done {s : Session σ} {since : Nat} (hle : s.now ≤ since + expiry) : KeptAlive host a expiry s since []
  | step {s : Session σ} {since : Nat} {op : Operation σ} {ops : List (Operation σ)} (hle : s.now ≤ since + expiry)
      (hops : KeptAlive host a expiry (s.step op) since ops) : KeptAlive host a expiry s since (op :: ops)
  | lookUp {s : Session σ} {since : Nat} {op : Operation σ} {ops : List (Operation σ)} (hle : s.now ≤ since + expiry)
      (hop : op.LooksUp s host a) (hops : KeptAlive host a expiry (s.step op) s.now ops) :
      KeptAlive host a expiry s since (op :: ops)

namespace Session

variable {s : Session σ} {host : IPv6} {a : IPv4} {since expiry : Nat}

theorem now_record (r : Pool.Range) (t : Except Fault LeaseTable) : (s.record r t).now = s.now := by
  cases t <;> rfl

/-- The clock runs forward. -/
theorem now_le_step (s : Session σ) (op : Operation σ) : s.now ≤ (s.step op).now := by
  have hrecord (r : Pool.Range) (t : Except Fault LeaseTable) : s.now ≤ (s.record r t).now := (now_record r t).ge
  cases op with
  | addNetwork net => exact hrecord _ _
  | addRange first last => exact hrecord _ _
  | wait span => exact Nat.le_add_right _ _
  | _ => exact Nat.le_refl _

theorem now_le_run (s : Session σ) (ops : List (Operation σ)) : s.now ≤ (s.run ops).now := by
  induction ops generalizing s with
  | nil => exact Nat.le_refl _
  | cons op ops ih => exact Nat.le_trans (s.now_le_step op) (ih (s.step op))

/-- Nothing needs to look at a lease in a run that is over in time. -/
theorem keptAlive_of_le {ops : List (Operation σ)} (h : (s.run ops).now ≤ since + expiry) :
    KeptAlive host a expiry s since ops := by
  induction ops generalizing s with
  | nil => exact .done h
  | cons op ops ih => exact .step (Nat.le_trans (s.now_le_run (op :: ops)) h) (ih h)

theorem expiry_record {first last : IPv4} :
    (s.record ⟨first, last⟩ (s.leases.addRange first last)).leases.expiry = s.leases.expiry := by
  unfold LeaseTable.addRange
  split
  · rfl
  split <;> rfl

theorem expiry_step (s : Session σ) (op : Operation σ) : (s.step op).leases.expiry = s.leases.expiry := by
  let P (t : LeaseTable) : Prop := t.expiry = s.leases.expiry
  have hlease : ∀ t host, P t → P (t.leaseFor s.now host).2 := fun t _ ht => (t.expiry_leaseFor _ _).trans ht
  have hfind : ∀ t a, P t → P (t.findHolder s.now a).2 := fun t _ ht => (t.expiry_findHolder _ _).trans ht
  have h : P s.gateway.leases := rfl
  cases op with
  | addNetwork net => exact expiry_record
  | addRange first last => exact expiry_record
  | reserve _ | wait _ | switch _ => rfl
  | leaseFor host => exact hlease _ _ rfl
  | findHolder a => exact hfind _ _ rfl
  | reclaim => exact LeaseTable.expiry_reclaim _ _
  | translateAs family packet => exact Gateway.keeps_translateAs hlease hfind h family packet
  | translate packet => exact Gateway.keeps_translate hlease hfind h packet
  | process egress packet => exact Gateway.keeps_process hlease hfind h egress packet s.device
  | handle egress frame => exact Gateway.keeps_handle hlease hfind h egress frame s.device

theorem expiry_run (s : Session σ) (ops : List (Operation σ)) : (s.run ops).leases.expiry = s.leases.expiry := by
  induction ops generalizing s with
  | nil => rfl
  | cons op ops ih => exact (ih (s.step op)).trans (s.expiry_step op)

/-! ## A lease in use stays in use -/

/-- The books balance and the lease of an address to a host is in use. -/
def Holds (s : Session σ) (host : IPv6) (a : IPv4) (since expiry : Nat) : Prop :=
  s.leases.InUse s.added s.kept s.now expiry host a since

namespace Holds

theorem sound (h : s.Holds host a since expiry) : s.Sound := h.books

theorem record (h : s.Holds host a since expiry) {first last : IPv4} :
    (s.record ⟨first, last⟩ (s.leases.addRange first last)).Holds host a since expiry := by
  rcases ht : s.leases.addRange first last with _ | t
  · exact h
  · exact h.addRange ht

/-- No operation ends a lease before its expiry has passed. -/
theorem step (h : s.Holds host a since expiry) (hle : s.now ≤ since + expiry) (op : Operation σ) :
    (s.step op).Holds host a since expiry := by
  let P (t : LeaseTable) : Prop := t.InUse s.added s.kept s.now expiry host a since
  have hlease : ∀ t host, P t → P (t.leaseFor s.now host).2 := fun _ _ ht => ht.leaseFor hle _
  have hfind : ∀ t a, P t → P (t.findHolder s.now a).2 := fun _ _ ht => ht.findHolder _
  cases op with
  | addNetwork net => exact h.record
  | addRange first last => exact h.record
  | reserve b => exact ⟨sound_step h.sound (.reserve b), h.expiry_eq, h.held⟩
  | leaseFor other => exact h.leaseFor hle other
  | findHolder b => exact h.findHolder b
  | reclaim => exact h.reclaim hle
  | wait span => exact h.mono (Nat.le_add_right _ _)
  | switch embedding => exact h
  | translateAs family packet => exact Gateway.keeps_translateAs hlease hfind h family packet
  | translate packet => exact Gateway.keeps_translate hlease hfind h packet
  | process egress packet => exact Gateway.keeps_process hlease hfind h egress packet s.device
  | handle egress frame => exact Gateway.keeps_handle hlease hfind h egress frame s.device

/-- A packet that looks at the lease renews it, even if the packet is refused afterwards. -/
theorem translateAs (h : s.Holds host a since expiry) (hle : s.now ≤ since + expiry) {family : Family} {packet : Bytes}
    (hasks : s.leases.Asks s.now host a family packet) :
    (s.gateway.translateAs s.now family packet).2.leases.InUse s.added s.kept s.now expiry host a s.now := by
  let P (t : LeaseTable) : Prop := t.InUse s.added s.kept s.now expiry host a s.now
  cases family with
  | ipv4 =>
    show P (settle (toIPv6 s.gateway.embedding s.now packet) s.leases).2
    rw [settle_snd]
    refine toIPv6_of_asks4 (P := P) (fun _ _ ht => ht.findHolder _) hasks fun t ht => ?_
    have hin : t.InUse s.added s.kept s.now expiry host a since := by
      rcases ht with rfl | ⟨b, rfl⟩
      · exact h
      · exact h.findHolder b
    rw [hin.findHolder_self]
    exact hin.renew_self
  | ipv6 =>
    show P (settle (toIPv4 s.gateway.embedding s.now packet) s.leases).2
    rw [settle_snd]
    refine toIPv4_of_asks6 (P := P) (fun _ _ ht => ht.leaseFor (Nat.le_add_right _ _) _) hasks fun t ht => ?_
    have hin : t.InUse s.added s.kept s.now expiry host a since := by
      rcases ht with rfl | ⟨other, rfl⟩
      · exact h
      · exact h.leaseFor hle other
    rw [hin.leaseFor_self]
    exact hin.renew_self

/-- Every look at a lease renews it. -/
theorem lookUp (h : s.Holds host a since expiry) (hle : s.now ≤ since + expiry) {op : Operation σ}
    (hop : op.LooksUp s host a) : (s.step op).Holds host a s.now expiry := by
  have htranslate {packet : Bytes}
      (hasks : ∃ family, Frame.family? packet = some family ∧ s.leases.Asks s.now host a family packet) :
      (s.gateway.translate s.now packet).2.leases.InUse s.added s.kept s.now expiry host a s.now := by
    obtain ⟨family, hfamily, hasks⟩ := hasks
    rw [Gateway.translate_of_family hfamily]
    exact h.translateAs hle hasks
  cases op with
  | addNetwork _ | addRange _ _ | reserve _ | reclaim | wait _ | switch _ => cases hop
  | leaseFor other =>
    cases hop
    show (s.leases.leaseFor s.now host).2.InUse _ _ _ _ _ _ _
    rw [h.leaseFor_self]
    exact h.renew_self
  | findHolder b =>
    cases hop
    show (s.leases.findHolder s.now a).2.InUse _ _ _ _ _ _ _
    rw [h.findHolder_self]
    exact h.renew_self
  | translateAs family packet => exact h.translateAs hle hop
  | translate packet => exact htranslate hop
  | process egress packet =>
    show (s.gateway.process egress s.now packet s.device).2.1.leases.InUse _ _ _ _ _ _ _
    rw [Gateway.process_gateway]
    exact htranslate hop
  | handle egress frame =>
    show (s.gateway.handle egress s.now frame s.device).2.1.leases.InUse _ _ _ _ _ _ _
    rw [Gateway.handle_leases]
    exact htranslate hop

theorem run {ops : List (Operation σ)} (h : s.Holds host a since expiry) (hops : KeptAlive host a expiry s since ops) :
    ∃ last, (s.run ops).Holds host a last expiry ∧ (s.run ops).now ≤ last + expiry := by
  induction hops with
  | done hle => exact ⟨_, h, hle⟩
  | step hle _ ih => exact ih (h.step hle _)
  | lookUp hle hop _ ih => exact ih (h.lookUp hle hop)

end Holds

/-! ## What the host can rely on -/

/-- A host can be reached at an address: nobody else holds it, it is found in both directions, and what is sent to it
arrives under the embedded address of its sender. -/
structure Reachable (s : Session σ) (host : IPv6) (a : IPv4) : Prop where
  eq_host : ∀ other, s.leases.addressOf? other = some a ∨ s.leases.holderOf? a = some other → other = host
  leaseFor_eq : (s.leases.leaseFor s.now host).1 = .ok a
  findHolder_eq : (s.leases.findHolder s.now a).1 = .ok host
  delivered : ∀ packet (h : IPv4.Header) d, IPv4.Header.decode packet = .ok h → h.dst = a →
    (s.gateway.translateAs s.now .ipv4 packet).1 = .ok (.forward d) → d.destination = .ipv6 host ∧
      ∃ out, IPv6.Header.decode d.body.bytes = .ok out ∧ out.dst = host ∧ out.src = s.gateway.embedding.embed h.src

theorem Holds.reachable (h : s.Holds host a since expiry) : s.Reachable host a where
  eq_host other hother := by
    rcases hother with ho | ho
    · exact h.eq_host ho
    · rw [h.holderOf?_eq, Option.some.injEq] at ho
      exact ho.symm
  leaseFor_eq := by rw [h.leaseFor_self]
  findHolder_eq := by rw [h.findHolder_self]
  delivered packet header d hheader hdst hforward := by
    obtain ⟨read, content, dst, t, body, _, houtcome, hadm, hfind, -, hwrap, hdest⟩ :=
      toIPv6_eq_ok.1 ((settle_fst_eq_ok fun _ => Outcome.noConfusion).1 hforward)
    cases houtcome
    have hread : read.header = header := by
      rw [(IPv4.Packet.decode_eq_ok.1 (admit4_eq_ok.1 hadm).1).1, Except.ok.injEq] at hheader
      exact hheader
    rw [hread, hdst] at hfind
    cases h.findHolder_self.symm.trans hfind
    obtain ⟨-, hbody⟩ := wrap6_eq_ok.1 hwrap
    refine ⟨hdest, header6 .outer read content (s.gateway.embedding.embed read.header.src) host body.size, ?_, rfl, ?_⟩
    · rw [hbody, Assembly.bytes_front]
      exact IPv6.Header.decode_encode _ _
    · rw [← hread]
      rfl

/-- The sender of a forwarded packet holds the address under which its packet goes on. -/
theorem Sound.holds (hsound : s.Sound) {packet : Bytes} {h : IPv6.Header} {d : Datagram}
    (hread : IPv6.Header.decode packet = .ok h)
    (hforward : (s.gateway.translateAs s.now .ipv6 packet).1 = .ok (.forward d)) :
    ∃ out, IPv4.Header.decode d.body.bytes = .ok out ∧ d.destination = .ipv4 out.dst ∧
      out.dst = s.gateway.embedding.extract h.dst ∧
      (s.step (.translateAs .ipv6 packet)).Holds h.src out.src s.now s.leases.expiry := by
  obtain ⟨read, content, src, t, body, hpacket, -, -, hlease, hbody, hwrap, hdest⟩ :=
    toIPv4_eq_forward.1 ((settle_fst_eq_ok fun _ => Outcome.noConfusion).1 hforward)
  have hheader : read.header = h := by
    rw [(IPv6.Packet.decode_eq_ok.1 hpacket).1, Except.ok.injEq] at hread
    exact hread
  rw [hheader] at hlease hwrap hdest
  obtain ⟨-, hbytes⟩ := wrap4_eq_ok.1 hwrap
  refine ⟨(header4 .outer read content src (s.gateway.embedding.extract h.dst) body.size).header, ?_, hdest, rfl, ?_⟩
  · rw [hbytes, Assembly.bytes_front]
    exact IPv4.HeaderFields.decode_encode _ _
  · let P (t : LeaseTable) : Prop := t.InUse s.added s.kept s.now s.leases.expiry h.src src s.now
    have hkeep : ∀ t other, P t → P (t.leaseFor s.now other).2 :=
      fun _ other ht => ht.leaseFor (Nat.le_add_right _ _) other
    have hafter :
        P (body4 s.gateway.embedding s.now read content src (s.gateway.embedding.extract read.header.dst) t).2 :=
      keeps_body4 hkeep read content src _ t (hsound.inUse_leaseFor hlease)
    rw [hbody] at hafter
    show P (settle (toIPv4 s.gateway.embedding s.now packet) s.leases).2
    rw [settle_snd]
    exact hafter

/-- A host whose packet was forwarded can be reached, at the address its packet was given and by the host its packet was
for, as long as no look at its lease is longer ago than the expiry. -/
theorem run_return (p : Prefix) (expiry : Nat) (device : σ) (ops : List (Operation σ)) {packet : Bytes}
    {h : IPv6.Header} {d : Datagram} (hread : IPv6.Header.decode packet = .ok h)
    (hforward : let s := (start p expiry device).run ops
      (s.gateway.translateAs s.now .ipv6 packet).1 = .ok (.forward d)) :
    let s := (start p expiry device).run ops
    let sent := s.step (.translateAs .ipv6 packet)
    ∃ out, IPv4.Header.decode d.body.bytes = .ok out ∧ d.destination = .ipv4 out.dst ∧ ∀ later,
      (sent.run later).now ≤ s.now + expiry ∨ KeptAlive h.src out.src expiry sent s.now later →
      (sent.run later).Reachable h.src out.src ∧
        (h.dst ∈ (sent.run later).gateway.embedding → (sent.run later).gateway.embedding.embed out.dst = h.dst) := by
  intro s sent
  have hsound : s.Sound := sound_run (sound_start p expiry device) ops
  obtain ⟨out, hout, hdest, hdst, hholds⟩ := hsound.holds hread hforward
  have hexpiry : s.leases.expiry = expiry := expiry_run _ ops
  rw [hexpiry] at hholds
  refine ⟨out, hout, hdest, fun later hlater => ?_⟩
  have hkept : KeptAlive h.src out.src expiry sent s.now later := hlater.elim keptAlive_of_le id
  obtain ⟨last, hlast, -⟩ := hholds.run hkept
  refine ⟨hlast.reachable, fun hmem => ?_⟩
  rw [hdst]
  exact (Prefix.embed_extract_iff _ _).2 hmem

/-- A UDP packet without data from `2001:db8::1` to `64:ff9b::203.0.113.5`. -/
def sampleRequest : Bytes :=
  [0x60, 0, 0, 0, 0, 8, 17, 64,
    0x20, 0x01, 0x0d, 0xb8, 0, 0, 0, 0, 0, 0, 0, 0, 0, 0, 0, 1,
    0, 0x64, 0xff, 0x9b, 0, 0, 0, 0, 0, 0, 0, 0, 203, 0, 113, 5,
    0x30, 0x39, 0, 53, 0, 8, 0xab, 0xcd]

/-- The expiry itself is not too late. -/
theorem reachable_at_expiry :
    let s := (start Prefix.wellKnown 10 ()).run [.addRange (IPv4.ofNat 0xc0000201) (IPv4.ofNat 0xc0000202)]
    ((s.step (.translateAs .ipv6 sampleRequest)).run [.wait 10]).Reachable
      (IPv6.read sampleRequest 8) (IPv4.ofNat 0xc0000201) := by
  intro s
  have hread : IPv6.Header.decode sampleRequest = .ok (IPv6.Header.ofBytes sampleRequest) := rfl
  obtain ⟨d, hforward⟩ : ∃ d, (s.gateway.translateAs s.now .ipv6 sampleRequest).1 = .ok (.forward d) := ⟨_, rfl⟩
  obtain ⟨out, -, -, hlater⟩ := run_return Prefix.wellKnown 10 () _ hread hforward
  have hsrc : Except.ok (IPv4.ofNat 0xc0000201) = Except.ok out.src := (hlater [] (Or.inl (by decide))).1.leaseFor_eq
  rw [Except.ok.inj hsrc]
  exact (hlater [.wait 10] (Or.inl (by decide))).1

end Session

end Nat64
