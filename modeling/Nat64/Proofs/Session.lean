import Nat64.Proofs.Forwarding.Steps
import Nat64.Proofs.LeaseTable

/-!
# Sessions

A session is a gateway at work: its clock only runs forward, and everything that may happen to it is an operation. The
session also remembers what no table keeps: the ranges that were added and the addresses that were kept back.

* `Session.step`, `Session.run`: one operation, and a list of them in order.
* `Session.Sound`, `Session.sound_run`: the books of the lease table balance in every state of every session.
* `Session.run_partition`: every address that was added is in one place.
-/

namespace Nat64

/-! ## What a gateway does to the leases -/

namespace Gateway

variable {σ : Type} {P : LeaseTable → Prop} {g : Gateway} {now : Nat}

theorem translate_of_family {family : Family} {packet : Bytes} (h : Frame.family? packet = some family) :
    g.translate now packet = g.translateAs now family packet := by
  rw [translate, h]

theorem translate_of_unknown {packet : Bytes} (h : Frame.family? packet = none) : (g.translate now packet).2 = g := by
  rw [translate, h]
  cases Frame.version? packet <;> rfl

theorem process_gateway (egress : Egress σ) (packet : Bytes) (s : σ) :
    (g.process egress now packet s).2.1 = (g.translate now packet).2 := by
  unfold process
  rcases g.translate now packet with ⟨_ | (_ | _ | _), _⟩ <;> rfl

theorem handle_leases (egress : Egress σ) (frame : Bytes) (s : σ) :
    (g.handle egress now frame s).2.1.leases = (g.translate now frame).2.leases := by
  unfold handle
  split
  · rename_i h
    rw [translate_of_unknown (Option.isNone_iff_eq_none.1 h)]
  · rw [← process_gateway egress frame s]
    rcases g.process egress now frame s with ⟨_ | _, _, _⟩ <;> rfl

section Keeps

variable (hlease : ∀ t host, P t → P (t.leaseFor now host).2) (hfind : ∀ t a, P t → P (t.findHolder now a).2)
include hlease hfind

/-- A property of the leases that both lookups keep is kept by every packet. -/
theorem keeps_translateAs (h : P g.leases) (family : Family) (packet : Bytes) :
    P (g.translateAs now family packet).2.leases := by
  cases family with
  | ipv4 =>
    show P (Forwarding.settle _ g.leases).2
    rw [Forwarding.settle_snd]
    exact Forwarding.keeps_toIPv6 hfind packet _ h
  | ipv6 =>
    show P (Forwarding.settle _ g.leases).2
    rw [Forwarding.settle_snd]
    exact Forwarding.keeps_toIPv4 hlease packet _ h

theorem keeps_translate (h : P g.leases) (packet : Bytes) : P (g.translate now packet).2.leases := by
  rcases hf : Frame.family? packet with _ | family
  · rw [translate_of_unknown hf]
    exact h
  · rw [translate_of_family hf]
    exact keeps_translateAs hlease hfind h family packet

theorem keeps_process (h : P g.leases) (egress : Egress σ) (packet : Bytes) (s : σ) :
    P (g.process egress now packet s).2.1.leases := by
  rw [process_gateway]
  exact keeps_translate hlease hfind h packet

theorem keeps_handle (h : P g.leases) (egress : Egress σ) (frame : Bytes) (s : σ) :
    P (g.handle egress now frame s).2.1.leases := by
  rw [handle_leases]
  exact keeps_translate hlease hfind h frame

end Keeps

end Gateway

/-! ## Operations -/

/-- What may happen to a gateway: whatever can be asked of its leases and of itself, time that passes, and another
prefix under which packets are carried over from then on. -/
inductive Operation (σ : Type) where
  | addNetwork (net : IPv4.Network)
  | addRange (first last : IPv4)
  | reserve (address : IPv4)
  | leaseFor (host : IPv6)
  | findHolder (address : IPv4)
  | reclaim
  | wait (span : Nat)
  | switch (embedding : Prefix)
  | translateAs (family : Family) (packet : Bytes)
  | translate (packet : Bytes)
  | process (egress : Egress σ) (packet : Bytes)
  | handle (egress : Egress σ) (frame : Bytes)

/-- A gateway at work, with what its egress remembers, the ranges that were added, and the addresses that were kept
back, each as often as `reserve` succeeded for it. -/
structure Session (σ : Type) where
  gateway : Gateway
  now : Nat
  device : σ
  added : List Pool.Range
  kept : List IPv4

namespace Session

variable {σ : Type}

/-- The leases. -/
def leases (s : Session σ) : LeaseTable := s.gateway.leases

/-- The session with other leases. -/
def withLeases (s : Session σ) (t : LeaseTable) : Session σ := { s with gateway := { s.gateway with leases := t } }

/-- Notes a range that was added; nothing happens if it was refused. -/
def record (s : Session σ) (range : Pool.Range) : Except Fault LeaseTable → Session σ
  | .ok t => { s.withLeases t with added := range :: s.added }
  | .error _ => s

/-- One operation. -/
def step (s : Session σ) : Operation σ → Session σ
  | .addNetwork net => s.record ⟨net.hosts.1, net.hosts.2⟩ (s.leases.addNetwork net)
  | .addRange first last => s.record ⟨first, last⟩ (s.leases.addRange first last)
  | .reserve a =>
    { s.withLeases (s.leases.reserve a) with kept := if s.leases.canReserve a then a :: s.kept else s.kept }
  | .leaseFor host => s.withLeases (s.leases.leaseFor s.now host).2
  | .findHolder a => s.withLeases (s.leases.findHolder s.now a).2
  | .reclaim => s.withLeases (s.leases.reclaim s.now)
  | .wait span => { s with now := s.now + span }
  | .switch embedding => { s with gateway := { s.gateway with embedding } }
  | .translateAs family packet => { s with gateway := (s.gateway.translateAs s.now family packet).2 }
  | .translate packet => { s with gateway := (s.gateway.translate s.now packet).2 }
  | .process egress packet =>
    let (_, gateway, device) := s.gateway.process egress s.now packet s.device
    { s with gateway, device }
  | .handle egress frame =>
    let (_, gateway, device) := s.gateway.handle egress s.now frame s.device
    { s with gateway, device }

/-- Operations in order. -/
def run (s : Session σ) (ops : List (Operation σ)) : Session σ := ops.foldl step s

/-- A session without any addresses. -/
def start (embedding : Prefix) (expiry : Nat) (device : σ) : Session σ where
  gateway := { embedding, leases := { expiry } }
  now := 0
  device
  added := []
  kept := []

/-! ## The books of every session -/

/-- The books balance. -/
def Sound (s : Session σ) : Prop := s.leases.Balanced s.added s.kept s.now

theorem sound_start (p : Prefix) (expiry : Nat) (device : σ) : (start p expiry device).Sound :=
  LeaseTable.balanced_empty expiry 0

variable {s : Session σ}

theorem sound_record {first last : IPv4} (h : s.Sound) :
    (s.record ⟨first, last⟩ (s.leases.addRange first last)).Sound := by
  rcases ht : s.leases.addRange first last with _ | t
  · exact h
  · exact h.addRange ht

/-- No operation upsets the books, whether it succeeds or fails. -/
theorem sound_step (h : s.Sound) (op : Operation σ) : (s.step op).Sound := by
  let P (t : LeaseTable) : Prop := t.Balanced s.added s.kept s.now
  have hlease : ∀ t host, P t → P (t.leaseFor s.now host).2 := fun _ _ ht => ht.leaseFor
  have hfind : ∀ t a, P t → P (t.findHolder s.now a).2 := fun _ _ ht => ht.findHolder
  cases op with
  | addNetwork net => exact sound_record h
  | addRange first last => exact sound_record h
  | reserve a =>
    show (s.leases.reserve a).Balanced s.added (if s.leases.canReserve a then a :: s.kept else s.kept) s.now
    split
    · exact h.reserve ‹_›
    · exact h.reserve_of_not ‹_›
  | leaseFor host => exact h.leaseFor
  | findHolder a => exact h.findHolder
  | reclaim => exact h.reclaim
  | wait span => exact h.mono (Nat.le_add_right _ _)
  | switch embedding => exact h
  | translateAs family packet => exact Gateway.keeps_translateAs hlease hfind h family packet
  | translate packet => exact Gateway.keeps_translate hlease hfind h packet
  | process egress packet => exact Gateway.keeps_process hlease hfind h egress packet s.device
  | handle egress frame => exact Gateway.keeps_handle hlease hfind h egress frame s.device

theorem sound_run (h : s.Sound) (ops : List (Operation σ)) : (s.run ops).Sound := by
  induction ops generalizing s with
  | nil => exact h
  | cons op ops ih => exact ih (sound_step h op)

end Session

/-- In every state of a session both indices agree; every address of the ranges that were added, and no other, is free
or leased or kept back, and only one of these; nothing was looked up in the future; and so the numbers add up. -/
theorem Session.run_partition {σ : Type} (p : Prefix) (expiry : Nat) (device : σ) (ops : List (Operation σ)) :
    let s := (Session.start p expiry device).run ops
    let t := s.leases
    (∀ host a, t.addressOf? host = some a ↔ ∃ l, t.leaseOn? a = some l ∧ l.address = a ∧ l.host = host) ∧
    (∀ a, a ∈ t.configured ↔ ∃ r ∈ s.added, a ∈ r) ∧
    (∀ a, a ∈ t.configured ↔ a ∈ t.free ∨ (t.leaseOn? a).isSome ∨ a ∈ s.kept) ∧
    (∀ a, ¬ (a ∈ t.free ∧ (t.leaseOn? a).isSome) ∧ ¬ (a ∈ t.free ∧ a ∈ s.kept) ∧
      ¬ ((t.leaseOn? a).isSome ∧ a ∈ s.kept)) ∧
    (∀ l ∈ t.leases, l.lastUsed ≤ s.now) ∧
    t.free.size + t.leases.length + s.kept.length = {a | a ∈ t.configured}.ncard := by
  intro s t
  have h : t.Balanced s.added s.kept s.now := sound_run (sound_start p expiry device) ops
  have hleased : ∀ a, (t.leaseOn? a).isSome ↔ a ∈ t.leased := fun a => by
    rw [Option.isSome_iff_exists, LeaseTable.leased, List.mem_map]
    exact exists_congr fun l => h.leaseOn?_eq_some
  refine ⟨fun host a => ?_, h.added_iff, fun a => ?_, fun a => ⟨?_, ?_, ?_⟩, h.lastUsed_le, ?_⟩
  · rw [h.addressOf?_eq_some]
    constructor
    · rintro ⟨l, hl, ha, hh⟩
      exact ⟨l, h.leaseOn?_eq_some.2 ⟨hl, ha⟩, ha, hh⟩
    · rintro ⟨l, hl, ha, hh⟩
      exact ⟨l, (h.leaseOn?_eq_some.1 hl).1, ha, hh⟩
  · rw [h.configured_iff, List.mem_append, hleased]
  · rintro ⟨hfree, hl⟩
    exact h.taken_not_free a (List.mem_append_left _ ((hleased a).1 hl)) hfree
  · rintro ⟨hfree, hk⟩
    exact h.taken_not_free a (List.mem_append_right _ hk) hfree
  · rintro ⟨hl, hk⟩
    exact (List.nodup_append.1 h.taken_nodup).2.2 a ((hleased a).1 hl) a hk rfl
  · rw [h.size_configured, Pool.size_eq_ncard h.configured_canonical]

end Nat64
