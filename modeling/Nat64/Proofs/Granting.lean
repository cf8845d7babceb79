import Nat64.Proofs.Reclaiming
import Nat64.Proofs.Return

/-!
# Asking for an address

A host that holds an address is told it, and nobody else's lease is looked at. A host that holds none ends the expired
leases, and is granted the least address that was added, is not kept back and is in nobody's hands then. It goes away
empty-handed only if there was nothing to end and nothing free, so that nothing has happened.

* `Balanced.mem_free_reclaim`: what is free after the expired leases have ended.
* `Balanced.leaseOn?_reclaim`, `leaseOn?_grant`: the leases that are left, and the new one.
* `Session.Asked`: what becomes of the leases, in each of the three cases.
* `Session.leaseFor_asked`: every question, in every state of every session.
-/

namespace Nat64

namespace LeaseTable

variable {t t' : LeaseTable} {added : List Pool.Range} {kept : List IPv4} {now : Nat} {host : IPv6} {a b : IPv4}

/-! ## Renewing -/

/-- The lease that a host looks up is as if it had been granted now. -/
theorem Balanced.leaseOn?_renew_self (h : t.Balanced added kept now) (hheld : t.addressOf? host = some a) :
    (t.renew now a).leaseOn? a = some { address := a, host, lastUsed := now } := by
  obtain ⟨l, hl, rfl, rfl⟩ := h.addressOf?_eq_some.1 hheld
  refine h.renew.leaseOn?_eq_some.2 ⟨?_, rfl⟩
  rw [LeaseTable.renew, List.mem_map]
  exact ⟨l, hl, if_pos rfl⟩

/-! ## After the expired leases have ended -/

theorem configured_foldl_endLease (ls : List Lease) (t : LeaseTable) :
    (ls.foldl endLease t).configured = t.configured := by
  induction ls generalizing t with
  | nil => rfl
  | cons l ls ih => exact ih (t.endLease l)

theorem configured_reclaim (t : LeaseTable) (now : Nat) : (t.reclaim now).configured = t.configured :=
  configured_foldl_endLease _ t

namespace Balanced

/-- An address is free then if it was added, is not kept back, and every lease on it has expired. -/
theorem mem_free_reclaim (h : t.Balanced added kept now) :
    a ∈ (t.reclaim now).free ↔
      a ∈ t.configured ∧ a ∉ kept ∧ ∀ l, t.leaseOn? a = some l → t.isExpired now l = true := by
  have hafter := h.reclaim
  have hplace := hafter.configured_iff a
  rw [configured_reclaim, List.mem_append] at hplace
  have hleased : a ∈ (t.reclaim now).leased ↔ ∃ l, t.leaseOn? a = some l ∧ ¬ t.isExpired now l = true := by
    rw [leased, h.leases_reclaim, List.mem_map]
    simp only [List.mem_filter, decide_eq_true_eq, h.leaseOn?_eq_some]
    exact exists_congr fun l => and_right_comm
  constructor
  · intro hfree
    refine ⟨hplace.2 (Or.inl hfree), fun hk => hafter.not_free_of_kept hk hfree, fun l hl => ?_⟩
    by_contra hgood
    apply hafter.not_leased_of_free hfree
    exact hleased.2 ⟨l, hl, hgood⟩
  · rintro ⟨hadded, hkept, hexpired⟩
    rcases hplace.1 hadded with hfree | hl | hk
    · exact hfree
    · obtain ⟨l, hl, hgood⟩ := hleased.1 hl
      exact absurd (hexpired l hl) hgood
    · exact absurd hk hkept

/-- A lease is left if it has not expired. -/
theorem leaseOn?_reclaim (h : t.Balanced added kept now) (b : IPv4) :
    (t.reclaim now).leaseOn? b = (t.leaseOn? b).filter fun l => ¬ t.isExpired now l := by
  ext l
  rw [h.reclaim.leaseOn?_eq_some, h.leases_reclaim, List.mem_filter, Option.filter_eq_some_iff, h.leaseOn?_eq_some]
  exact and_right_comm

/-- A host is found by its lease. -/
theorem addressOf?_iff_leaseOn? (h : t.Balanced added kept now) :
    t.addressOf? host = some a ↔ ∃ l, t.leaseOn? a = some l ∧ l.host = host := by
  rw [h.addressOf?_eq_some]
  simp only [h.leaseOn?_eq_some, and_assoc]

end Balanced

/-! ## Granting -/

/-- A lease that is added is the one on its address, if there was none. -/
theorem find?_append_self {ls : List Lease} {l : Lease} (h : ls.find? (·.address = l.address) = none) :
    (ls ++ [l]).find? (·.address = l.address) = some l := by
  rw [List.find?_append, h, Option.none_or]
  simp

theorem find?_append_of_ne {ls : List Lease} {l : Lease} (h : b ≠ l.address) :
    (ls ++ [l]).find? (·.address = b) = ls.find? (·.address = b) := by
  rw [List.find?_append, List.find?_cons_of_neg (by simpa using h.symm), List.find?_nil, Option.or_none]

/-- A grant adds a lease on an address that was free, and touches no other. -/
theorem leaseOn?_grant (h : t.Balanced added kept now) (ht : t.grant now host = (.ok a, t')) :
    t'.leaseOn? a = some { address := a, host, lastUsed := now } ∧ ∀ b, b ≠ a → t'.leaseOn? b = t.leaseOn? b := by
  unfold grant at ht
  split at ht <;> cases ht
  rename_i free hpop
  have hfree := (Pool.popLowest?_eq_some h.free_canonical hpop).2.1
  let new : Lease := { address := a, host, lastUsed := now }
  constructor
  · exact find?_append_self (l := new) (leaseOn?_eq_none.2 (h.not_leased_of_free hfree))
  · intro b hb
    exact find?_append_of_ne (l := new) hb

/-- A grant takes the least free address. -/
theorem grant_eq_ok (h : t.free.Canonical) (ht : t.grant now host = (.ok a, t')) :
    IsLeast {b | b ∈ t.free} a ∧ t'.free.Canonical ∧ (∀ b, b ∈ t'.free ↔ b ∈ t.free ∧ b ≠ a) ∧
      t'.configured = t.configured ∧ t'.expiry = t.expiry := by
  unfold grant at ht
  split at ht <;> cases ht
  rename_i free hpop
  obtain ⟨hcanonical, hmem, hle, hfree⟩ := Pool.popLowest?_eq_some h hpop
  exact ⟨⟨hmem, fun b hb => hle b hb⟩, hcanonical, hfree, rfl, rfl⟩

/-- There is nothing to grant if nothing is free, and only then. -/
theorem grant_eq_error (h : t.free.Canonical) {f : Fault} :
    t.grant now host = (.error f, t') ↔ f = .poolExhausted host ∧ (∀ b, b ∉ t.free) ∧ t' = t := by
  rw [← Pool.popLowest?_eq_none h, grant]
  split
  · rename_i hpop
    simp [hpop, eq_comm]
  · rename_i hpop
    simp [hpop]

/-- Nothing is free after the expired leases have ended: then there was none. -/
theorem Balanced.unexpired_of_exhausted (h : t.Balanced added kept now) (hnone : ∀ b, b ∉ (t.reclaim now).free) :
    ∀ l ∈ t.leases, ¬ t.isExpired now l = true := by
  intro l hl hexpired
  have hon : t.leaseOn? l.address = some l := h.leaseOn?_eq_some.2 ⟨hl, rfl⟩
  have hleased : l.address ∈ t.leased := List.mem_map_of_mem hl
  refine hnone l.address (h.mem_free_reclaim.2 ⟨?_, fun hk => h.not_leased_of_kept hk hleased, fun m hm => ?_⟩)
  · exact (h.configured_iff _).2 (Or.inr (List.mem_append_left _ hleased))
  · rw [hon, Option.some.injEq] at hm
    rwa [← hm]

end LeaseTable

namespace Session

variable {σ : Type} {s : Session σ} {host : IPv6} {a : IPv4}

/-! ## Every question -/

/-- A lease that was last looked up longer ago than the expiry. -/
def Expired (s : Session σ) (l : Lease) : Prop := s.leases.expiry < s.now - l.lastUsed

instance (s : Session σ) (l : Lease) : Decidable (s.Expired l) :=
  inferInstanceAs (Decidable (s.leases.expiry < s.now - l.lastUsed))

theorem isExpired_iff {l : Lease} : s.leases.isExpired s.now l = true ↔ s.Expired l := decide_eq_true_iff

/-- An address that was added, is not kept back, and is in nobody's hands when the expired leases have ended. -/
def Available (s : Session σ) (a : IPv4) : Prop :=
  a ∈ s.leases.configured ∧ a ∉ s.kept ∧ ∀ l, s.leases.leaseOn? a = some l → s.Expired l

/-- What a host that asks for its address is told, and the leases after that. -/
inductive Asked (s : Session σ) (host : IPv6) : Except Fault IPv4 → LeaseTable → Prop
  /-- It holds an address: its lease, expired or not, counts from now on, and that is all. -/
  | held {a : IPv4} {t : LeaseTable} (hheld : s.leases.addressOf? host = some a)
      (hlease : t.leaseOn? a = some { address := a, host, lastUsed := s.now })
      (hothers : ∀ b, b ≠ a → t.leaseOn? b = s.leases.leaseOn? b)
      (haddresses : ∀ other, t.addressOf? other = s.leases.addressOf? other)
      (hrest : t.free = s.leases.free ∧ t.configured = s.leases.configured ∧ t.expiry = s.leases.expiry) :
      Asked s host (.ok a) t
  /-- It holds none: the expired leases have ended, and it holds the least of the addresses available. -/
  | granted {a : IPv4} {t : LeaseTable} (hnone : s.leases.addressOf? host = none)
      (hleast : IsLeast {b | s.Available b} a)
      (hlease : t.leaseOn? a = some { address := a, host, lastUsed := s.now })
      (hothers : ∀ b, b ≠ a → t.leaseOn? b = (s.leases.leaseOn? b).filter fun l => ¬ s.Expired l)
      (haddresses : ∀ other b, t.addressOf? other = some b ↔ ∃ l, t.leaseOn? b = some l ∧ l.host = other)
      (hfree : t.free.Canonical ∧ ∀ b, b ∈ t.free ↔ s.Available b ∧ b ≠ a)
      (hrest : t.configured = s.leases.configured ∧ t.expiry = s.leases.expiry) : Asked s host (.ok a) t
  /-- It holds none and none is available: the table is what it was. -/
  | exhausted (hnone : s.leases.addressOf? host = none) (hnothing : ∀ b, ¬ s.Available b) :
      Asked s host (.error (.poolExhausted host)) s.leases

namespace Asked

variable {answer : Except Fault IPv4} {f : Fault} {t : LeaseTable}

theorem of_error (h : s.Asked host (.error f) t) :
    f = .poolExhausted host ∧ s.leases.addressOf? host = none ∧ (∀ b, ¬ s.Available b) ∧ t = s.leases := by
  cases h with
  | exhausted hnone hnothing => exact ⟨rfl, hnone, hnothing, rfl⟩

theorem eq_error (h : s.Asked host answer t) (hnone : s.leases.addressOf? host = none)
    (hnothing : ∀ b, ¬ s.Available b) :
    answer = .error (.poolExhausted host) := by
  cases h with
  | held hheld =>
    rw [hnone] at hheld
    cases hheld
  | granted _ hleast => exact absurd hleast.1 (hnothing _)
  | exhausted => rfl

end Asked

theorem Sound.mem_free_reclaim (h : s.Sound) (a : IPv4) : a ∈ (s.leases.reclaim s.now).free ↔ s.Available a := by
  simp only [LeaseTable.Balanced.mem_free_reclaim h, Available, isExpired_iff]

theorem Sound.asked (h : s.Sound) (host : IPv6) :
    s.Asked host (s.leases.leaseFor s.now host).1 (s.leases.leaseFor s.now host).2 := by
  have hreclaimed := LeaseTable.Balanced.reclaim h
  unfold LeaseTable.leaseFor
  cases hheld : s.leases.addressOf? host with
  | some a =>
    refine .held hheld (LeaseTable.Balanced.leaseOn?_renew_self h hheld) (fun b hb => LeaseTable.leaseOn?_renew hb.symm)
      (fun other => rfl) ⟨rfl, rfl, rfl⟩
  | none =>
    simp only
    rcases hgrant : (s.leases.reclaim s.now).grant s.now host with ⟨f | a, t⟩
    · obtain ⟨rfl, hnothing, rfl⟩ := (LeaseTable.grant_eq_error hreclaimed.free_canonical).1 hgrant
      -- whatever had ended would be free now, so nothing has
      have hsame : s.leases.reclaim s.now = s.leases :=
        LeaseTable.reclaim_of_unexpired (LeaseTable.Balanced.unexpired_of_exhausted h hnothing)
      simp only [hsame]
      exact .exhausted hheld fun b hb => hnothing b ((h.mem_free_reclaim b).2 hb)
    · obtain ⟨hleast, hcanonical, hfree, hconfigured, hexpiry⟩ :=
        LeaseTable.grant_eq_ok hreclaimed.free_canonical hgrant
      obtain ⟨hlease, hothers⟩ := LeaseTable.leaseOn?_grant hreclaimed hgrant
      have hafter : t.Balanced s.added s.kept s.now := by
        have hbooks : (s.leases.leaseFor s.now host).2.Balanced s.added s.kept s.now := h.leaseFor
        rw [LeaseTable.leaseFor, hheld] at hbooks
        simp only [hgrant] at hbooks
        exact hbooks
      have havailable : {b | b ∈ (s.leases.reclaim s.now).free} = {b | s.Available b} :=
        Set.ext fun b => h.mem_free_reclaim b
      rw [havailable] at hleast
      refine .granted hheld hleast hlease (fun b hb => ?_) (fun other b => hafter.addressOf?_iff_leaseOn?)
        ⟨hcanonical, fun b => ?_⟩ ⟨?_, ?_⟩
      · rw [hothers b hb, LeaseTable.Balanced.leaseOn?_reclaim h]
        refine congrArg (Option.filter · _) (funext fun l => ?_)
        exact decide_eq_decide.2 (not_congr isExpired_iff)
      · rw [hfree b, h.mem_free_reclaim]
      · rw [hconfigured, LeaseTable.configured_reclaim]
      · rw [hexpiry, LeaseTable.expiry_reclaim]

/-- A host without a lease finds nothing available if nothing is free and no lease has expired, and only then. -/
theorem Sound.exhausted_iff (h : s.Sound) :
    (∀ b, ¬ s.Available b) ↔ (∀ b, b ∉ s.leases.free) ∧ ∀ l ∈ s.leases.leases, ¬ s.Expired l := by
  have hunexpired : (∀ l ∈ s.leases.leases, ¬ s.Expired l) →
      s.leases.reclaim s.now = s.leases := fun hgood =>
    LeaseTable.reclaim_of_unexpired fun l hl hexpired => hgood l hl (isExpired_iff.1 hexpired)
  constructor
  · intro hnothing
    have hgood : ∀ l ∈ s.leases.leases, ¬ s.Expired l := fun l hl hexpired =>
      LeaseTable.Balanced.unexpired_of_exhausted h (fun b hb => hnothing b ((h.mem_free_reclaim b).1 hb)) l hl
        (isExpired_iff.2 hexpired)
    refine ⟨fun b hb => hnothing b ((h.mem_free_reclaim b).1 ?_), hgood⟩
    rwa [hunexpired hgood]
  · rintro ⟨hfree, hgood⟩ b hb
    apply hfree b
    rw [← hunexpired hgood]
    exact (h.mem_free_reclaim b).2 hb

/-- A host that asks for its address is told the one it holds, or is granted the least that is available once the
expired leases have ended. It is refused if it holds none, nothing is free and no lease has expired, and in no other
case; then the leases are what they were. -/
theorem leaseFor_asked (p : Prefix) (expiry : Nat) (device : σ) (ops : List (Operation σ)) (host : IPv6) :
    let s := (start p expiry device).run ops
    let r := s.leases.leaseFor s.now host
    s.leases.expiry = expiry ∧
    s.Asked host r.1 r.2 ∧
    (∀ f, r.1 = .error f ↔ f = .poolExhausted host ∧ s.leases.addressOf? host = none ∧ (∀ b, b ∉ s.leases.free) ∧
      ∀ l ∈ s.leases.leases, ¬ s.Expired l) ∧
    (∀ f, r.1 = .error f → r.2 = s.leases) := by
  intro s r
  have h : s.Sound := sound_run (sound_start p expiry device) ops
  have hasked : s.Asked host r.1 r.2 := h.asked host
  refine ⟨expiry_run _ ops, hasked, fun f => ⟨fun hf => ?_, ?_⟩, fun f hf => ?_⟩
  · rw [hf] at hasked
    obtain ⟨rfl, hnone, hnothing, -⟩ := hasked.of_error
    exact ⟨rfl, hnone, h.exhausted_iff.1 hnothing⟩
  · rintro ⟨rfl, hnone, hnothing⟩
    exact hasked.eq_error hnone (h.exhausted_iff.2 hnothing)
  · rw [hf] at hasked
    exact hasked.of_error.2.2.2

end Session

end Nat64
