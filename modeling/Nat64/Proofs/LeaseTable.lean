import Nat64.LeaseTable
import Nat64.Proofs.Pool

/-!
# The books of a lease table

Every address that was ever added is in exactly one place: it is free, or leased, or kept back. `Balanced` says so,
with all that the operations need to keep it: the two indices list the same leases, no host and no address occurs
twice, and nothing was looked up in the future. The addresses kept back are not part of a table; they are those for
which `reserve` succeeded.

* looking: `Balanced.addressOf?_eq_some`, `Balanced.leaseOn?_eq_some`, `Balanced.holderOf?_eq_some`;
* what remains after `reclaim`: `Balanced.leases_reclaim`;
* every operation keeps the books: `Balanced.addRange`, `Balanced.reserve`, `Balanced.reclaim`, `Balanced.leaseFor`,
  `Balanced.findHolder`;
* who holds an address after an operation: `addressOf?_endLease`, `addressOf?_of_grant`, `addressOf?_of_leaseFor`.
-/

namespace Nat64.LeaseTable

/-- The leased addresses, oldest lease first. -/
def leased (t : LeaseTable) : List IPv4 := t.leases.map (·.address)

/-- Every address is in one place. -/
structure Balanced (t : LeaseTable) (added : List Pool.Range) (kept : List IPv4) (now : Nat) : Prop where
  /-- The free addresses are a canonical pool. -/
  free_canonical : t.free.Canonical
  /-- The addresses ever added are a canonical pool. -/
  configured_canonical : t.configured.Canonical
  /-- Both indices list the same leases. -/
  addresses_eq : t.addresses = t.leases.map fun l => (l.host, l.address)
  /-- No host holds two leases. -/
  hosts_nodup : (t.leases.map (·.host)).Nodup
  /-- No address is leased twice, kept back twice, or both. -/
  taken_nodup : (t.leased ++ kept).Nodup
  /-- No address that is leased or kept back is free. -/
  taken_not_free : ∀ a ∈ t.leased ++ kept, a ∉ t.free
  /-- An address was added if it is free or leased or kept back, and only then. -/
  configured_iff : ∀ a, a ∈ t.configured ↔ a ∈ t.free ∨ a ∈ t.leased ++ kept
  /-- The addresses ever added are those of the ranges that were added. -/
  added_iff : ∀ a, a ∈ t.configured ↔ ∃ r ∈ added, a ∈ r
  /-- No lease was looked up in the future. -/
  lastUsed_le : ∀ l ∈ t.leases, l.lastUsed ≤ now

/-- An empty table is balanced. -/
theorem balanced_empty (expiry now : Nat) : Balanced { expiry } [] [] now where
  free_canonical := Pool.canonical_empty
  configured_canonical := Pool.canonical_empty
  addresses_eq := rfl
  hosts_nodup := List.nodup_nil
  taken_nodup := List.nodup_nil
  taken_not_free := by simp [leased]
  configured_iff a := by simp [leased]
  added_iff a := by
    simp only [List.not_mem_nil, false_and, exists_false, iff_false]
    exact Pool.not_mem_nil
  lastUsed_le := by simp

/-! ## Looking -/

/-- A holder is found at any time, and its lease is renewed. -/
theorem findHolder_eq_ok {t t' : LeaseTable} {now : Nat} {a : IPv4} {host : IPv6} :
    t.findHolder now a = (.ok host, t') ↔ t.holderOf? a = some host ∧ t' = t.renew now a := by
  unfold findHolder
  rcases t.holderOf? a with _ | found
  · simp
  · simp [eq_comm (a := t')]

/-- Renewing a lease leaves it with its holder. -/
theorem holderOf?_renew (t : LeaseTable) (now : Nat) (a b : IPv4) : (t.renew now a).holderOf? b = t.holderOf? b := by
  have haddress (l : Lease) : (if l.address = a then { l with lastUsed := now } else l).address = l.address := by
    split <;> rfl
  have hhost (l : Lease) : (if l.address = a then { l with lastUsed := now } else l).host = l.host := by
    split <;> rfl
  simp only [holderOf?, leaseOn?, renew, List.find?_map, Option.map_map, Function.comp_def, haddress, hhost]

/-- Renewing a lease leaves those on other addresses alone. -/
theorem leaseOn?_renew {t : LeaseTable} {now : Nat} {a b : IPv4} (h : a ≠ b) :
    (t.renew now a).leaseOn? b = t.leaseOn? b := by
  have haddress (l : Lease) : (if l.address = a then { l with lastUsed := now } else l).address = l.address := by
    split <;> rfl
  simp only [leaseOn?, renew, List.find?_map, Function.comp_def, haddress]
  have hfound (l : Lease) (hl : t.leases.find? (·.address = b) = some l) :
      (if l.address = a then { l with lastUsed := now } else l) = l := by
    have hb : l.address = b := by simpa using List.find?_some hl
    rw [if_neg fun ha => h (ha.symm.trans hb)]
  generalize t.leases.find? (·.address = b) = found at hfound ⊢
  cases found with
  | none => rfl
  | some l => exact congrArg some (hfound l rfl)

theorem leaseOn?_eq_none {t : LeaseTable} {a : IPv4} : t.leaseOn? a = none ↔ a ∉ t.leased := by
  rw [leaseOn?, List.find?_eq_none, leased, List.mem_map]
  simp

/-- In a list without repeated keys, what is found under a key is what is listed under it. -/
theorem find?_eq_some_of_nodup {α κ : Type} [DecidableEq κ] {key : α → κ} {k : κ} {x : α} {l : List α}
    (h : (l.map key).Nodup) : l.find? (key · = k) = some x ↔ x ∈ l ∧ key x = k := by
  constructor
  · intro hx
    exact ⟨List.mem_of_find?_eq_some hx, by simpa using List.find?_some hx⟩
  · rintro ⟨hx, rfl⟩
    obtain ⟨y, hy⟩ : ∃ y, l.find? (key · = key x) = some y :=
      Option.isSome_iff_exists.1 (List.find?_isSome.2 ⟨x, hx, by simp⟩)
    have hkey : key y = key x := by simpa using List.find?_some hy
    rw [hy, List.inj_on_of_nodup_map h (List.mem_of_find?_eq_some hy) hx hkey]

namespace Balanced

variable {t : LeaseTable} {added : List Pool.Range} {kept : List IPv4} {now : Nat} {a : IPv4} {host : IPv6} {l : Lease}

theorem leased_nodup (h : t.Balanced added kept now) : t.leased.Nodup := (List.nodup_append.1 h.taken_nodup).1

theorem not_leased_of_free (h : t.Balanced added kept now) (hfree : a ∈ t.free) : a ∉ t.leased := fun hl =>
  h.taken_not_free a (List.mem_append_left _ hl) hfree

theorem not_leased_of_kept (h : t.Balanced added kept now) (ha : a ∈ kept) : a ∉ t.leased := fun hl =>
  (List.nodup_append.1 h.taken_nodup).2.2 a hl a ha rfl

theorem not_free_of_kept (h : t.Balanced added kept now) (ha : a ∈ kept) : a ∉ t.free :=
  h.taken_not_free a (List.mem_append_right _ ha)

/-- A lease is told by its address. -/
theorem eq_of_address (h : t.Balanced added kept now) {m : Lease} (hl : l ∈ t.leases) (hm : m ∈ t.leases)
    (he : l.address = m.address) : l = m := List.inj_on_of_nodup_map h.leased_nodup hl hm he

/-- A lease is told by its host. -/
theorem eq_of_host (h : t.Balanced added kept now) {m : Lease} (hl : l ∈ t.leases) (hm : m ∈ t.leases)
    (he : l.host = m.host) : l = m := List.inj_on_of_nodup_map h.hosts_nodup hl hm he

theorem leaseOn?_eq_some (h : t.Balanced added kept now) : t.leaseOn? a = some l ↔ l ∈ t.leases ∧ l.address = a :=
  find?_eq_some_of_nodup h.leased_nodup

theorem holderOf?_eq_some (h : t.Balanced added kept now) :
    t.holderOf? a = some host ↔ ∃ l ∈ t.leases, l.address = a ∧ l.host = host := by
  simp only [holderOf?, Option.map_eq_some_iff, h.leaseOn?_eq_some]
  exact ⟨fun ⟨l, ⟨hl, ha⟩, hh⟩ => ⟨l, hl, ha, hh⟩, fun ⟨l, hl, ha, hh⟩ => ⟨l, ⟨hl, ha⟩, hh⟩⟩

/-- No host holds two addresses. -/
theorem eq_of_holderOf? (h : t.Balanced added kept now) {b : IPv4} (ha : t.holderOf? a = some host)
    (hb : t.holderOf? b = some host) : a = b := by
  obtain ⟨l, hl, rfl, hhost⟩ := h.holderOf?_eq_some.1 ha
  obtain ⟨m, hm, rfl, rfl⟩ := h.holderOf?_eq_some.1 hb
  rw [h.eq_of_host hl hm hhost]

theorem addressOf?_eq_some (h : t.Balanced added kept now) :
    t.addressOf? host = some a ↔ ∃ l ∈ t.leases, l.address = a ∧ l.host = host := by
  have hkeys : (t.addresses.map (·.1)).Nodup := by
    rw [h.addresses_eq, List.map_map]
    exact h.hosts_nodup
  simp only [addressOf?, Option.map_eq_some_iff, find?_eq_some_of_nodup hkeys]
  simp only [h.addresses_eq, List.mem_map]
  constructor
  · rintro ⟨_, ⟨⟨l, hl, rfl⟩, rfl⟩, rfl⟩
    exact ⟨l, hl, rfl, rfl⟩
  · rintro ⟨l, hl, rfl, rfl⟩
    exact ⟨_, ⟨⟨l, hl, rfl⟩, rfl⟩, rfl⟩

theorem addressOf?_eq_none (h : t.Balanced added kept now) :
    t.addressOf? host = none ↔ ∀ l ∈ t.leases, l.host ≠ host := by
  rw [Option.eq_none_iff_forall_ne_some]
  simp only [ne_eq, h.addressOf?_eq_some]
  exact ⟨fun hn l hl hh => hn l.address ⟨l, hl, rfl, hh⟩, fun hn _ ⟨l, hl, _, hh⟩ => hn l hl hh⟩

/-! ## Adding and keeping back -/

/-- The books stay balanced while the clock runs. -/
theorem mono (h : t.Balanced added kept now) {later : Nat} (hle : now ≤ later) : t.Balanced added kept later :=
  { h with lastUsed_le := fun l hl => Nat.le_trans (h.lastUsed_le l hl) hle }

theorem addRange (h : t.Balanced added kept now) {first last : IPv4} {t' : LeaseTable}
    (ht : t.addRange first last = .ok t') : t'.Balanced (⟨first, last⟩ :: added) kept now := by
  unfold LeaseTable.addRange at ht
  split at ht
  · cases ht
  split at ht
  · cases ht
  rename_i hnew
  rw [Pool.meetsRange_iff h.configured_canonical] at hnew
  cases ht
  refine { h with
    free_canonical := Pool.canonical_insertRange h.free_canonical
    configured_canonical := Pool.canonical_insertRange h.configured_canonical
    taken_not_free := fun a ha hfree => ?_
    configured_iff := fun a => ?_
    added_iff := fun a => ?_ }
  · rcases (Pool.mem_insertRange h.free_canonical).1 hfree with hfree | hrange
    · exact h.taken_not_free a ha hfree
    · exact hnew ⟨a, (h.configured_iff a).2 (Or.inr ha), hrange⟩
  · show a ∈ t.configured.insertRange first last ↔ a ∈ t.free.insertRange first last ∨ a ∈ t.leased ++ kept
    rw [Pool.mem_insertRange h.configured_canonical, Pool.mem_insertRange h.free_canonical, h.configured_iff,
      or_right_comm]
  · show a ∈ t.configured.insertRange first last ↔ _
    rw [Pool.mem_insertRange h.configured_canonical, h.added_iff, List.exists_mem_cons_iff, or_comm]
    rfl

theorem canReserve_iff (h : t.Balanced added kept now) : t.canReserve a = true ↔ a ∈ t.free := by
  rw [canReserve, beq_iff_eq, Pool.countRange_self h.free_canonical]

/-- Keeping a free address back moves it to those kept back. -/
theorem reserve (h : t.Balanced added kept now) (ha : t.canReserve a = true) :
    (t.reserve a).Balanced added (a :: kept) now := by
  have hfree : a ∈ t.free := h.canReserve_iff.1 ha
  have hperm : (t.leased ++ a :: kept).Perm (a :: (t.leased ++ kept)) := List.perm_middle
  refine { h with
    free_canonical := Pool.canonical_erase h.free_canonical
    taken_nodup := hperm.nodup_iff.2 (List.nodup_cons.2 ⟨fun hm => h.taken_not_free a hm hfree, h.taken_nodup⟩)
    taken_not_free := fun b hb hbfree => ?_
    configured_iff := fun b => ?_ }
  · obtain ⟨hbfree, hne⟩ := Pool.mem_erase.1 hbfree
    rcases List.mem_cons.1 (hperm.mem_iff.1 hb) with rfl | hb
    · exact hne rfl
    · exact h.taken_not_free b hb hbfree
  · show b ∈ t.configured ↔ b ∈ t.free.erase a ∨ b ∈ t.leased ++ a :: kept
    rw [h.configured_iff, Pool.mem_erase, hperm.mem_iff, List.mem_cons]
    by_cases hb : b = a
    · simp [hb, hfree]
    · simp [hb]

/-- Nothing moves when an address that is not free is to be kept back. -/
theorem reserve_of_not (h : t.Balanced added kept now) (ha : ¬ t.canReserve a = true) :
    (t.reserve a).Balanced added kept now := by
  rw [h.canReserve_iff] at ha
  have hmem : ∀ b, b ∈ t.free.erase a ↔ b ∈ t.free := fun b => by
    rw [Pool.mem_erase]
    exact ⟨And.left, fun hb => ⟨hb, fun he => ha (he ▸ hb)⟩⟩
  exact { h with
    free_canonical := Pool.canonical_erase h.free_canonical
    taken_not_free := fun b hb hfree => h.taken_not_free b hb ((hmem b).1 hfree)
    configured_iff := fun b => (h.configured_iff b).trans (or_congr (hmem b).symm Iff.rfl) }

/-! ## Renewing -/

/-- Renewing changes nothing but the time. -/
theorem map_leases_renew {β : Type} (f : Lease → β) (hf : ∀ l u, f { l with lastUsed := u } = f l) (t : LeaseTable)
    (now : Nat) (a : IPv4) : (t.renew now a).leases.map f = t.leases.map f := by
  rw [LeaseTable.renew, List.map_map]
  refine List.map_congr_left fun l _ => ?_
  show f (if l.address = a then { l with lastUsed := now } else l) = f l
  split
  · exact hf l now
  · rfl

theorem leased_renew (t : LeaseTable) (now : Nat) (a : IPv4) : (t.renew now a).leased = t.leased :=
  map_leases_renew (·.address) (fun _ _ => rfl) t now a

theorem renew (h : t.Balanced added kept now) : (t.renew now a).Balanced added kept now where
  free_canonical := h.free_canonical
  configured_canonical := h.configured_canonical
  addresses_eq := by
    rw [map_leases_renew (fun l => (l.host, l.address)) fun _ _ => rfl]
    exact h.addresses_eq
  hosts_nodup := by
    rw [map_leases_renew (·.host) fun _ _ => rfl]
    exact h.hosts_nodup
  taken_nodup := by
    rw [leased_renew]
    exact h.taken_nodup
  taken_not_free := by
    rw [leased_renew]
    exact h.taken_not_free
  configured_iff := by
    rw [leased_renew]
    exact h.configured_iff
  added_iff := h.added_iff
  lastUsed_le l hl := by
    obtain ⟨m, hm, rfl⟩ := List.mem_map.1 hl
    show (if m.address = a then { m with lastUsed := now } else m).lastUsed ≤ now
    split
    · exact Nat.le_refl now
    · exact h.lastUsed_le m hm

/-! ## Ending -/

theorem leases_endLease (h : t.Balanced added kept now) (hl : l ∈ t.leases) :
    (t.endLease l).leases = t.leases.filter (· ≠ l) := by
  refine List.filter_congr fun m hm => ?_
  rw [decide_eq_decide, not_iff_not]
  exact ⟨h.eq_of_address hm hl, fun he => he ▸ rfl⟩

/-- What is taken after a lease ends is what was taken but for its address. -/
theorem mem_taken_endLease (h : t.Balanced added kept now) (hl : l ∈ t.leases) :
    a ∈ (t.endLease l).leased ++ kept ↔ a ∈ t.leased ++ kept ∧ a ≠ l.address := by
  have hkept : l.address ∉ kept := fun hk => h.not_leased_of_kept hk (List.mem_map_of_mem hl)
  simp only [leased, endLease, List.mem_append, List.mem_map, List.mem_filter, decide_eq_true_eq]
  constructor
  · rintro (⟨m, ⟨hm, hne⟩, rfl⟩ | hk)
    · exact ⟨Or.inl ⟨m, hm, rfl⟩, hne⟩
    · exact ⟨Or.inr hk, fun he => hkept (he ▸ hk)⟩
  · rintro ⟨⟨m, hm, rfl⟩ | hk, hne⟩
    · exact Or.inl ⟨m, ⟨hm, hne⟩, rfl⟩
    · exact Or.inr hk

theorem endLease (h : t.Balanced added kept now) (hl : l ∈ t.leases) : (t.endLease l).Balanced added kept now where
  free_canonical := Pool.canonical_insert h.free_canonical
  configured_canonical := h.configured_canonical
  addresses_eq := by
    rw [h.leases_endLease hl, LeaseTable.endLease, h.addresses_eq, List.filter_map]
    refine congrArg _ (List.filter_congr fun m hm => ?_)
    rw [Function.comp_apply, decide_eq_decide, not_iff_not]
    exact ⟨h.eq_of_host hm hl, fun he => he ▸ rfl⟩
  hosts_nodup := (List.filter_sublist.map _).nodup h.hosts_nodup
  taken_nodup := ((List.filter_sublist.map _).append (List.Sublist.refl kept)).nodup h.taken_nodup
  taken_not_free b hb hfree := by
    obtain ⟨hb, hne⟩ := (h.mem_taken_endLease hl).1 hb
    rcases (Pool.mem_insert h.free_canonical).1 hfree with hfree | he
    · exact h.taken_not_free b hb hfree
    · exact hne he
  configured_iff b := by
    show b ∈ t.configured ↔ b ∈ t.free.insert l.address ∨ b ∈ (t.endLease l).leased ++ kept
    rw [h.configured_iff, Pool.mem_insert h.free_canonical, h.mem_taken_endLease hl]
    by_cases hb : b = l.address
    · simp [hb, leased, List.mem_map_of_mem hl]
    · simp [hb]
  added_iff := h.added_iff
  lastUsed_le m hm := h.lastUsed_le m (List.mem_of_mem_filter hm)

/-- Ending several leases keeps the books and leaves the others. -/
theorem foldl_endLease {ls : List Lease} (h : t.Balanced added kept now) (hls : ls ⊆ t.leases) (hn : ls.Nodup) :
    (ls.foldl LeaseTable.endLease t).Balanced added kept now ∧
      (ls.foldl LeaseTable.endLease t).leases = t.leases.filter (· ∉ ls) := by
  induction ls generalizing t with
  | nil => exact ⟨h, by simp⟩
  | cons l ls ih =>
    obtain ⟨hl, hn⟩ := List.nodup_cons.1 hn
    have hmem := hls List.mem_cons_self
    have hsub : ls ⊆ (t.endLease l).leases := fun m hm => by
      rw [h.leases_endLease hmem, List.mem_filter, decide_eq_true_eq]
      exact ⟨hls (List.mem_cons_of_mem l hm), fun he => hl (he ▸ hm)⟩
    obtain ⟨hb, hleases⟩ := ih (h.endLease hmem) hsub hn
    refine ⟨hb, ?_⟩
    rw [List.foldl_cons, hleases, h.leases_endLease hmem, List.filter_filter]
    refine List.filter_congr fun m _ => ?_
    simp [Bool.and_comm]

theorem leases_nodup (h : t.Balanced added kept now) : t.leases.Nodup := h.leased_nodup.of_map _

theorem reclaim (h : t.Balanced added kept now) : (t.reclaim now).Balanced added kept now :=
  (h.foldl_endLease (List.filter_subset_self _) (h.leases_nodup.filter _)).1

/-- `reclaim` ends the expired leases and no others. -/
theorem leases_reclaim (h : t.Balanced added kept now) :
    (t.reclaim now).leases = t.leases.filter fun l => ¬ t.isExpired now l := by
  rw [LeaseTable.reclaim, (h.foldl_endLease (List.filter_subset_self _) (h.leases_nodup.filter _)).2]
  refine List.filter_congr fun l hl => ?_
  simp [hl]

/-! ## Granting -/

theorem grant (h : t.Balanced added kept now) (hhost : ∀ l ∈ t.leases, l.host ≠ host) :
    (t.grant now host).2.Balanced added kept now := by
  unfold LeaseTable.grant
  split
  · exact h
  rename_i a free hpop
  obtain ⟨hcanonical, ha, -, hfree⟩ := Pool.popLowest?_eq_some h.free_canonical hpop
  let new : Lease := { address := a, host, lastUsed := now }
  have hleased : (t.leases ++ [new]).map (·.address) = t.leased ++ [a] := List.map_append
  have htaken : ((t.leases ++ [new]).map (·.address) ++ kept).Perm (a :: (t.leased ++ kept)) := by
    rw [hleased, List.append_assoc]
    exact List.perm_middle
  refine {
    free_canonical := hcanonical
    configured_canonical := h.configured_canonical
    addresses_eq := ?_
    hosts_nodup := ?_
    taken_nodup := htaken.nodup_iff.2 (List.nodup_cons.2 ⟨fun hm => h.taken_not_free a hm ha, h.taken_nodup⟩)
    taken_not_free := fun b hb hbfree => ?_
    configured_iff := fun b => ?_
    added_iff := h.added_iff
    lastUsed_le := fun l hl => ?_ }
  · show t.addresses ++ [(host, a)] = (t.leases ++ [new]).map fun l => (l.host, l.address)
    rw [h.addresses_eq, List.map_append]
    rfl
  · show ((t.leases ++ [new]).map (·.host)).Nodup
    rw [List.map_append, List.nodup_append]
    refine ⟨h.hosts_nodup, List.nodup_singleton _, fun b hb c hc => ?_⟩
    obtain ⟨l, hl, rfl⟩ := List.mem_map.1 hb
    rw [List.mem_singleton.1 hc]
    exact hhost l hl
  · obtain ⟨hbfree, hne⟩ := (hfree b).1 hbfree
    rcases List.mem_cons.1 (htaken.mem_iff.1 hb) with rfl | hb
    · exact hne rfl
    · exact h.taken_not_free b hb hbfree
  · show b ∈ t.configured ↔ b ∈ free ∨ b ∈ (t.leases ++ [new]).map (·.address) ++ kept
    rw [h.configured_iff, hfree, htaken.mem_iff, List.mem_cons]
    by_cases hb : b = a
    · simp [hb, ha]
    · simp [hb]
  · rcases List.mem_append.1 hl with hl | hl
    · exact h.lastUsed_le l hl
    · rw [List.mem_singleton.1 hl]

/-! ## Looking up -/

theorem leaseFor (h : t.Balanced added kept now) : (t.leaseFor now host).2.Balanced added kept now := by
  unfold LeaseTable.leaseFor
  split
  · exact h.renew
  · rename_i hnone
    refine h.reclaim.grant fun l hl => h.addressOf?_eq_none.1 hnone l ?_
    rw [h.leases_reclaim] at hl
    exact List.mem_of_mem_filter hl

theorem findHolder (h : t.Balanced added kept now) : (t.findHolder now a).2.Balanced added kept now := by
  unfold LeaseTable.findHolder
  split
  · exact h.renew
  · exact h

/-! ## Counting -/

/-- All addresses that were ever added are accounted for. -/
theorem size_configured (h : t.Balanced added kept now) :
    t.free.size + t.leases.length + kept.length = t.configured.size := by
  have hunion : {a | a ∈ t.configured} = {a | a ∈ t.free} ∪ ((t.leased ++ kept).toFinset : Set IPv4) := by
    ext b
    simpa using h.configured_iff b
  have hdisjoint : Disjoint {a | a ∈ t.free} ((t.leased ++ kept).toFinset : Set IPv4) :=
    Set.disjoint_left.2 fun b hb htaken => h.taken_not_free b (by simpa using htaken) hb
  have htaken : ((t.leased ++ kept).toFinset : Set IPv4).ncard = t.leases.length + kept.length := by
    rw [Set.ncard_coe_finset, List.toFinset_card_of_nodup h.taken_nodup, List.length_append, leased, List.length_map]
  rw [Pool.size_eq_ncard h.free_canonical, Pool.size_eq_ncard h.configured_canonical, hunion,
    Set.ncard_union_eq hdisjoint, htaken, Nat.add_assoc]

end Balanced

/-! ## Who holds a lease after a lookup -/

variable {t t' : LeaseTable} {now : Nat} {host other : IPv6} {a : IPv4}

/-- When a lease ends, its host holds none, and nobody else notices. -/
theorem addressOf?_endLease (t : LeaseTable) (l : Lease) (host : IPv6) :
    (t.endLease l).addressOf? host = if host = l.host then none else t.addressOf? host := by
  simp only [addressOf?, endLease, List.find?_filter]
  split
  · rename_i hhost
    subst hhost
    simp
  · rename_i hhost
    congr 2
    funext pair
    by_cases hpair : pair.1 = host
    · simp [hpair, hhost]
    · simp [hpair]

theorem addressOf?_of_foldl_endLease {ls : List Lease} (h : (ls.foldl endLease t).addressOf? host = some a) :
    t.addressOf? host = some a := by
  induction ls generalizing t with
  | nil => exact h
  | cons l ls ih =>
    have hended := ih h
    rw [addressOf?_endLease] at hended
    split at hended
    · cases hended
    · exact hended

/-- Nobody is given a lease when the expired ones end. -/
theorem addressOf?_of_reclaim (h : (t.reclaim now).addressOf? host = some a) : t.addressOf? host = some a :=
  addressOf?_of_foldl_endLease h

/-- Looking for a holder gives nobody a lease, and takes none away. -/
theorem addressOf?_findHolder (t : LeaseTable) (now : Nat) (b : IPv4) (host : IPv6) :
    (t.findHolder now b).2.addressOf? host = t.addressOf? host := by
  unfold findHolder
  split <;> rfl

/-- Only the host that is granted a lease gets one, if it holds none yet. -/
theorem addressOf?_of_grant (h : t.grant now other = (.ok a, t')) (host : IPv6) :
    t'.addressOf? host = (t.addressOf? host).or (if other = host then some a else none) := by
  unfold grant at h
  split at h
  · cases h
  · cases h
    rw [addressOf?, addressOf?, List.find?_append, Option.map_or]
    by_cases hhost : other = host
    · simp [hhost]
    · simp [hhost]

/-- A lookup gives a lease to nobody but the host it is for, and only if that holds none. -/
theorem addressOf?_of_leaseFor (h : (t.leaseFor now other).2.addressOf? host = some a) :
    t.addressOf? host = some a ∨ host = other ∧ t.addressOf? other = none := by
  unfold leaseFor at h
  split at h
  · exact Or.inl h
  · rename_i hnone
    rcases hgrant : (t.reclaim now).grant now other with ⟨f | b, s⟩
    · have htable : s = t.reclaim now := by
        unfold grant at hgrant
        split at hgrant
        · cases hgrant
          rfl
        · cases hgrant
      rw [hgrant, htable] at h
      exact Or.inl (addressOf?_of_reclaim h)
    · rw [hgrant, addressOf?_of_grant hgrant, Option.or_eq_some_iff] at h
      rcases h with hkept | ⟨-, hnew⟩
      · exact Or.inl (addressOf?_of_reclaim hkept)
      · by_cases hhost : other = host
        · exact Or.inr ⟨hhost.symm, hnone⟩
        · rw [if_neg hhost] at hnew
          cases hnew

/-- A host for which a lease is found has it from then on. -/
theorem addressOf?_of_leaseFor_eq_ok (h : t.leaseFor now host = (.ok a, t')) : t'.addressOf? host = some a := by
  unfold leaseFor at h
  split at h
  · rename_i found hfound
    cases h
    exact hfound
  · rename_i hnone
    have hreclaimed : (t.reclaim now).addressOf? host = none := by
      rw [Option.eq_none_iff_forall_ne_some]
      intro b hb
      rw [addressOf?_of_reclaim hb] at hnone
      cases hnone
    rw [addressOf?_of_grant h, hreclaimed, if_pos rfl, Option.none_or]

end Nat64.LeaseTable
