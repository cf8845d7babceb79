import Nat64.Proofs.Forwarding.Errors
import Nat64.Proofs.Return

/-!
# Addresses kept back

An address comes free when it is added and when a lease on it ends. One that was kept back is in nobody's hands, so that
no lease on it can end; and it was added, so that it is not added again: ranges are compared with all that was ever
added and not with what is free. What is kept back once is therefore out of use for good.

* `Balanced.leaseFor_ne`, `Balanced.addRange_of_kept`: nobody is told the address, and it is not added again.
* `Session.kept_subset_run`: a session forgets none of them.
* `Session.Withheld`: what it means for an address to be out of use.
* `Session.kept_back`: it is out of use in every state after it was kept back.
-/

namespace Nat64

namespace LeaseTable.Balanced

variable {t : LeaseTable} {added : List Pool.Range} {kept : List IPv4} {now : Nat} {a : IPv4}

theorem leaseOn?_of_kept (h : t.Balanced added kept now) (ha : a ∈ kept) : t.leaseOn? a = none :=
  leaseOn?_eq_none.2 (h.not_leased_of_kept ha)

theorem addressOf?_ne (h : t.Balanced added kept now) (ha : a ∈ kept) (host : IPv6) : t.addressOf? host ≠ some a := by
  intro hheld
  obtain ⟨l, hl, hla, -⟩ := h.addressOf?_eq_some.1 hheld
  apply h.not_leased_of_kept ha
  exact List.mem_map.2 ⟨l, hl, hla⟩

/-- Whoever is told an address holds it afterwards: so nobody is told one that is kept back. -/
theorem leaseFor_ne (h : t.Balanced added kept now) (ha : a ∈ kept) (host : IPv6) :
    (t.leaseFor now host).1 ≠ .ok a := by
  intro htold
  have hin := h.inUse_leaseFor (Prod.ext htold rfl : t.leaseFor now host = (.ok a, (t.leaseFor now host).2))
  exact hin.books.addressOf?_ne ha host hin.addressOf?_eq

theorem findHolder_of_kept (h : t.Balanced added kept now) (ha : a ∈ kept) :
    t.findHolder now a = (.error (.noLease a), t) := by
  rw [LeaseTable.findHolder, holderOf?, h.leaseOn?_of_kept ha]
  rfl

/-- An address that is kept back was added, and the range that it was added with is never forgotten. -/
theorem addRange_of_kept (h : t.Balanced added kept now) (ha : a ∈ kept) {first last : IPv4} (hfirst : first ≤ a)
    (hlast : a ≤ last) : t.addRange first last = .error (.rangeCollision first last) := by
  have hadded : a ∈ t.configured := (h.configured_iff a).2 (Or.inr (List.mem_append_right _ ha))
  have hmeets : t.configured.meetsRange first last = true :=
    (Pool.meetsRange_iff h.configured_canonical).2 ⟨a, hadded, hfirst, hlast⟩
  have hordered : ¬ last < first := Nat.not_lt.2 (Nat.le_trans hfirst hlast)
  rw [LeaseTable.addRange, if_neg hordered, if_pos hmeets]

end LeaseTable.Balanced

namespace Session

open Forwarding

variable {σ : Type} {s : Session σ} {a : IPv4}

/-! ## No session forgets -/

theorem kept_subset_step (s : Session σ) (op : Operation σ) : s.kept ⊆ (s.step op).kept := by
  have hrecord (r : Pool.Range) (t : Except Fault LeaseTable) : s.kept ⊆ (s.record r t).kept := by
    cases t <;> exact List.Subset.refl _
  cases op with
  | addNetwork net => exact hrecord _ _
  | addRange first last => exact hrecord _ _
  | reserve b =>
    show s.kept ⊆ if s.leases.canReserve b then b :: s.kept else s.kept
    split
    · exact List.subset_cons_self b s.kept
    · exact List.Subset.refl _
  | _ => exact List.Subset.refl _

theorem kept_subset_run (s : Session σ) (ops : List (Operation σ)) : s.kept ⊆ (s.run ops).kept := by
  induction ops generalizing s with
  | nil => exact List.Subset.refl _
  | cons op ops ih => exact List.Subset.trans (s.kept_subset_step op) (ih (s.step op))

theorem mem_kept_reserve (h : s.leases.canReserve a = true) : a ∈ (s.step (.reserve a)).kept := by
  show a ∈ if s.leases.canReserve a then a :: s.kept else s.kept
  rw [if_pos h]
  exact List.mem_cons_self

/-! ## Out of use -/

/-- An address that is out of use. -/
structure Withheld (s : Session σ) (a : IPv4) : Prop where
  /-- No host is told it. -/
  leaseFor_ne : ∀ host, (s.leases.leaseFor s.now host).1 ≠ .ok a
  /-- Nobody holds it, by either index. -/
  unleased : s.leases.leaseOn? a = none ∧ ∀ host, s.leases.addressOf? host ≠ some a
  /-- It is not found, and looking for it changes nothing. -/
  findHolder_eq : s.leases.findHolder s.now a = (.error (.noLease a), s.leases)
  /-- It is not free, and cannot be kept back again. -/
  unfree : a ∉ s.leases.free ∧ s.leases.canReserve a = false
  /-- No range that it lies in is added. -/
  addRange_eq : ∀ first last, first ≤ a → a ≤ last →
    s.leases.addRange first last = .error (.rangeCollision first last) ∧ s.step (.addRange first last) = s
  /-- No network with such a host is added. -/
  addNetwork_eq : ∀ net : IPv4.Network, net.hosts.1 ≤ a → a ≤ net.hosts.2 →
    s.leases.addNetwork net = .error (.rangeCollision net.hosts.1 net.hosts.2) ∧ s.step (.addNetwork net) = s
  /-- No packet is sent from it. -/
  src_ne : ∀ packet d, (s.gateway.translateAs s.now .ipv6 packet).1 = .ok (.forward d) →
    ∃ out, IPv4.Header.decode d.body.bytes = .ok out ∧ out.src ≠ a
  /-- No error is sent about a datagram for it. -/
  quoted_ne : ∀ packet quote d, Quotes .ipv6 packet quote →
    (s.gateway.translateAs s.now .ipv6 packet).1 = .ok (.forward d) →
      ∃ quoted, IPv4.Header.decode (d.body.bytes.drop 28) = .ok quoted ∧ quoted.dst ≠ a
  /-- No packet for it is delivered. -/
  undelivered : ∀ packet (h : IPv4.Header) d, IPv4.Header.decode packet = .ok h → h.dst = a →
    (s.gateway.translateAs s.now .ipv4 packet).1 ≠ .ok (.forward d)

/-- A forwarded packet has a header. -/
theorem exists_header {packet : Bytes} {d : Datagram}
    (hforward : (s.gateway.translateAs s.now .ipv6 packet).1 = .ok (.forward d)) :
    ∃ h, IPv6.Header.decode packet = .ok h := by
  obtain ⟨read, _, _, _, _, hpacket, -⟩ :=
    toIPv4_eq_forward.1 ((settle_fst_eq_ok fun _ => Outcome.noConfusion).1 hforward)
  exact ⟨read.header, (IPv6.Packet.decode_eq_ok.1 hpacket).1⟩

/-- The sender holds the address that its packet is sent from, and this is in nobody's hands. -/
theorem Sound.src_ne (h : s.Sound) (ha : a ∈ s.kept) {packet : Bytes} {d : Datagram}
    (hforward : (s.gateway.translateAs s.now .ipv6 packet).1 = .ok (.forward d)) :
    ∃ out, IPv4.Header.decode d.body.bytes = .ok out ∧ out.src ≠ a := by
  obtain ⟨header, hread⟩ := exists_header hforward
  obtain ⟨out, hout, -, -, hholds⟩ := h.holds hread hforward
  refine ⟨out, hout, ?_⟩
  rintro rfl
  exact LeaseTable.Balanced.addressOf?_ne hholds.sound ha header.src (LeaseTable.InUse.addressOf?_eq hholds)

/-- The receiver of the quoted datagram is asked for after the sender of the error, when the books still balance. -/
theorem Sound.quoted_ne (h : s.Sound) (ha : a ∈ s.kept) {packet quote : Bytes} {d : Datagram}
    (hquotes : Quotes .ipv6 packet quote)
    (hforward : (s.gateway.translateAs s.now .ipv6 packet).1 = .ok (.forward d)) :
    ∃ quoted, IPv4.Header.decode (d.body.bytes.drop 28) = .ok quoted ∧ quoted.dst ≠ a := by
  have hcarried : ErrorInIPv4 s.gateway.embedding s.now s.leases packet quote d _ :=
    Gateway.errorInIPv4_of_translateAs hquotes hforward
  cases hcarried with
  | @intro outer inner _ _ _ _ dst between _ _ _ _ _ _ hsrc _ _ _ hdst _ _ hbytes =>
    have hbetween : between.Balanced s.added s.kept s.now := (h.inUse_leaseFor hsrc).books
    rw [hbytes, Icmp.Counterpart.drop_behind (IPv4.HeaderFields.length_encode _)]
    refine ⟨_, IPv4.HeaderFields.decode_encode _ _, fun he => hbetween.leaseFor_ne ha inner.dst ?_⟩
    rw [hdst, ← he]
    rfl

theorem Sound.undelivered (h : s.Sound) (ha : a ∈ s.kept) {packet : Bytes} {header : IPv4.Header} {d : Datagram}
    (hread : IPv4.Header.decode packet = .ok header) (hdst : header.dst = a) :
    (s.gateway.translateAs s.now .ipv4 packet).1 ≠ .ok (.forward d) := by
  intro hforward
  obtain ⟨read, content, dst, t, body, -, -, hadm, hfind, -⟩ :=
    toIPv6_eq_ok.1 ((settle_fst_eq_ok fun _ => Outcome.noConfusion).1 hforward)
  have hheader : read.header = header := by
    rw [(IPv4.Packet.decode_eq_ok.1 (admit4_eq_ok.1 hadm).1).1, Except.ok.injEq] at hread
    exact hread
  rw [hheader, hdst] at hfind
  cases hfind.symm.trans (LeaseTable.Balanced.findHolder_of_kept h ha)

theorem Sound.withheld (h : s.Sound) (ha : a ∈ s.kept) : s.Withheld a := by
  have hcollides : ∀ first last, first ≤ a → a ≤ last →
      s.leases.addRange first last = .error (.rangeCollision first last) := fun first last hfirst hlast =>
    LeaseTable.Balanced.addRange_of_kept h ha hfirst hlast
  have hnot : s.leases.canReserve a = false := by
    rw [Bool.eq_false_iff, ne_eq, LeaseTable.Balanced.canReserve_iff h]
    exact LeaseTable.Balanced.not_free_of_kept h ha
  have hsame : ∀ r f, s.record r (.error f) = s := fun r f => rfl
  exact {
    leaseFor_ne := LeaseTable.Balanced.leaseFor_ne h ha
    unleased := ⟨LeaseTable.Balanced.leaseOn?_of_kept h ha, LeaseTable.Balanced.addressOf?_ne h ha⟩
    findHolder_eq := LeaseTable.Balanced.findHolder_of_kept h ha
    unfree := ⟨LeaseTable.Balanced.not_free_of_kept h ha, hnot⟩
    addRange_eq := fun first last hfirst hlast => by
      refine ⟨hcollides first last hfirst hlast, ?_⟩
      rw [step, hcollides first last hfirst hlast, hsame]
    addNetwork_eq := fun net hfirst hlast => by
      have hnetwork : s.leases.addNetwork net = .error (.rangeCollision net.hosts.1 net.hosts.2) :=
        hcollides _ _ hfirst hlast
      refine ⟨hnetwork, ?_⟩
      rw [step, hnetwork, hsame]
    src_ne := fun packet d hforward => h.src_ne ha hforward
    quoted_ne := fun packet quote d hquotes hforward => h.quoted_ne ha hquotes hforward
    undelivered := fun packet header d hread hdst => h.undelivered ha hread hdst }

/-- An address that could be kept back, in whatever state of a session, is out of use in every state after that. -/
theorem kept_back (p : Prefix) (expiry : Nat) (device : σ) (ops : List (Operation σ)) {a : IPv4}
    (hreserve : ((start p expiry device).run ops).leases.canReserve a = true) (later : List (Operation σ)) :
    ((((start p expiry device).run ops).step (.reserve a)).run later).Withheld a := by
  have hsound : ((start p expiry device).run ops).Sound := sound_run (sound_start p expiry device) ops
  have hafter : (((start p expiry device).run ops).step (.reserve a)).Sound := sound_step hsound _
  apply (sound_run hafter later).withheld
  exact kept_subset_run _ later (mem_kept_reserve hreserve)

/-- The lowest address is kept back while its lease has just ended. -/
theorem kept_back_sample :
    let low := IPv4.ofNat 0xc0000201
    let ops : List (Operation Unit) :=
      [.addRange low (IPv4.ofNat 0xc0000202), .translateAs .ipv6 sampleRequest, .wait 11, .reclaim]
    let s := (start Prefix.wellKnown 10 ()).run ops
    s.leases.canReserve low = true ∧
      ((s.step (.reserve low)).run [.translateAs .ipv6 sampleRequest, .wait 11, .reclaim]).Withheld low := by
  intro low ops s
  have hreserve : s.leases.canReserve low = true := by decide
  exact ⟨hreserve, kept_back Prefix.wellKnown 10 () ops hreserve _⟩

end Session

end Nat64
