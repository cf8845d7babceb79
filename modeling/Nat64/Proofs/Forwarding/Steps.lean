import Nat64.Gateway
import Nat64.Proofs.Header

/-!
# Steps of forwarding

A step returns something or refuses the packet, and leaves the leases changed or not. This file opens the steps: what a
sequence of steps does (`bind_apply`, `bind_eq_ok`), what the lifted results do (`lift_eq_ok`), and the rule by which
a property of the leases is carried through a whole packet.

* `Keeps P step`: the step keeps the property, whatever it returns.
* `keeps_toIPv4`: one that every grant and renewal of `leaseFor` keeps is kept by a packet from IPv6;
* `keeps_toIPv6`: one that every renewal of `findHolder` keeps is kept by a packet from IPv4.
-/

namespace Nat64.Forwarding

variable {α β : Type}

/-! ## Opening steps -/

theorem bind_apply (x : ForwardM α) (f : α → ForwardM β) (t : LeaseTable) :
    (x >>= f) t = match x t with
      | (.ok a, t') => f a t'
      | (.error r, t') => (.error r, t') := by
  simp only [bind, ExceptT.bind, ExceptT.mk, StateT.bind, ExceptT.bindCont]
  rcases x t with ⟨_ | _, _⟩ <;> rfl

/-- A sequence that returns goes through a first step that returns. -/
theorem bind_eq_ok {x : ForwardM α} {f : α → ForwardM β} {t t' : LeaseTable} {b : β} :
    (x >>= f) t = (.ok b, t') ↔ ∃ a s, x t = (.ok a, s) ∧ f a s = (.ok b, t') := by
  rw [bind_apply]
  rcases x t with ⟨r | a, s⟩
  · constructor
    · intro h
      cases h
    · rintro ⟨_, _, h, -⟩
      cases h
  · constructor
    · intro h
      exact ⟨a, s, rfl, h⟩
    · rintro ⟨_, _, h, hf⟩
      cases h
      exact hf

theorem pure_apply (a : α) (t : LeaseTable) : (pure a : ForwardM α) t = (.ok a, t) := rfl

theorem pure_eq_ok {a b : α} {t t' : LeaseTable} : (pure a : ForwardM α) t = (.ok b, t') ↔ a = b ∧ t = t' := by
  show ((.ok a, t) : Except Refusal α × LeaseTable) = (.ok b, t') ↔ _
  rw [Prod.mk.injEq, Except.ok.injEq]

theorem lift_eq_ok {r : Except Refusal α} {a : α} {t t' : LeaseTable} :
    (liftM r : ForwardM α) t = (.ok a, t') ↔ r = .ok a ∧ t = t' := by
  show ((r, t) : Except Refusal α × LeaseTable) = (.ok a, t') ↔ _
  rw [Prod.mk.injEq]

/-- A fault remains one when it is taken for a refusal. -/
theorem mapError_eq_ok {r : Except Fault α} {a : α} {t t' : LeaseTable} :
    ((r.mapError .fault, t) : Except Refusal α × LeaseTable) = (.ok a, t') ↔ r = .ok a ∧ t = t' := by
  cases r with
  | error f =>
    constructor
    · intro h
      cases h
    · rintro ⟨h, -⟩
      cases h
  | ok b =>
    show ((.ok b, t) : Except Refusal α × LeaseTable) = (.ok a, t') ↔ _
    rw [Prod.mk.injEq, Except.ok.injEq, Except.ok.injEq]

theorem liftFault_apply (r : Except Fault α) (t : LeaseTable) :
    (liftM r : ForwardM α) t = (r.mapError .fault, t) := by
  cases r <;> rfl

theorem liftFault_eq_ok {r : Except Fault α} {a : α} {t t' : LeaseTable} :
    (liftM r : ForwardM α) t = (.ok a, t') ↔ r = .ok a ∧ t = t' := by
  rw [liftFault_apply]
  exact mapError_eq_ok

theorem liftRefusal_eq_ok {r : Except Fault α} {a : α} : (liftM r : Except Refusal α) = .ok a ↔ r = .ok a := by
  rcases r with f | b
  · constructor <;> intro h <;> cases h
  · constructor <;> intro h <;> cases h <;> rfl

theorem settle_snd (step : ForwardM Outcome) (t : LeaseTable) : (settle step t).2 = (step t).2 := by
  unfold settle
  rcases step t with ⟨(_ | _) | _, _⟩ <;> rfl

/-- What goes out was made by the steps themselves. -/
theorem settle_fst_eq_ok {step : ForwardM Outcome} {t : LeaseTable} {outcome : Outcome}
    (hne : ∀ reason, outcome ≠ .drop reason) :
    (settle step t).1 = .ok outcome ↔ step t = (.ok outcome, (step t).2) := by
  unfold settle
  rcases step t with ⟨(reason | _) | _, s⟩
  · constructor
    · intro h
      cases h
      exact absurd rfl (hne reason)
    · intro h
      cases h
  · constructor <;> intro h <;> cases h
  · constructor <;> intro h <;> cases h <;> rfl

/-! ## Properties that steps keep -/

/-- Whatever the step returns, a table with the property keeps it. -/
def Keeps (P : LeaseTable → Prop) (step : ForwardM α) : Prop := ∀ t, P t → P (step t).2

section Keeps

variable {P : LeaseTable → Prop} {p : Prefix} {now : Nat}

theorem keeps_pure (a : α) : Keeps P (pure a : ForwardM α) := fun _ h => h

theorem keeps_throw (r : Refusal) : Keeps P (throw r : ForwardM α) := fun _ h => h

theorem keeps_lift (r : Except Refusal α) : Keeps P (liftM r : ForwardM α) := fun _ h => h

theorem keeps_liftFault (r : Except Fault α) : Keeps P (liftM r : ForwardM α) := fun t h => by
  rw [liftFault_apply]
  exact h

theorem keeps_bind {x : ForwardM α} {f : α → ForwardM β} (hx : Keeps P x) (hf : ∀ a, Keeps P (f a)) :
    Keeps P (x >>= f) := fun t h => by
  have hs := hx t h
  rw [bind_apply]
  rcases hr : x t with ⟨r | a, s⟩ <;> rw [hr] at hs
  · exact hs
  · exact hf a s hs

section ToIPv4

variable (hlease : ∀ t host, P t → P (t.leaseFor now host).2)
include hlease

theorem keeps_leaseFor (host : IPv6) : Keeps P (leaseFor now host) := fun t h => hlease t host h

theorem keeps_resolve4 (level : Level) (h : IPv6.Header) : Keeps P (resolve4 p now level h) := by
  cases level
  · exact keeps_bind (keeps_leaseFor hlease _) fun _ => keeps_pure _
  · exact keeps_bind (keeps_leaseFor hlease _) fun _ => keeps_pure _

theorem keeps_quoteIPv4 (data : Bytes) : Keeps P (quoteIPv4 p now data) :=
  keeps_bind (keeps_liftFault _) fun _ =>
    keeps_bind (keeps_lift _) fun _ =>
      keeps_bind (keeps_resolve4 hlease _ _) fun _ => keeps_liftFault _

theorem keeps_messageBody4 (c : Icmp.Counterpart) (rest : Bytes) : Keeps P (messageBody4 p now c rest) := by
  unfold messageBody4
  split
  · exact keeps_pure _
  · exact keeps_bind (keeps_quoteIPv4 hlease rest) fun _ => keeps_pure _

theorem keeps_body4 (packet : IPv6.Packet) (content : Content) (src dst : IPv4) :
    Keeps P (body4 p now packet content src dst) := by
  unfold body4
  split
  · exact keeps_liftFault _
  · exact keeps_bind (keeps_messageBody4 hlease _ _) fun _ => keeps_liftFault _

/-- Whatever becomes of an IPv6 packet, the leases are only looked up by host. -/
theorem keeps_toIPv4 (data : Bytes) : Keeps P (toIPv4 p now data) := by
  refine keeps_bind (keeps_liftFault _) fun packet => ?_
  split
  · split
    · exact keeps_pure _
    · exact keeps_throw _
  · exact keeps_bind (keeps_lift _) fun content => keeps_bind (keeps_resolve4 hlease _ _) fun _ =>
      keeps_bind (keeps_body4 hlease _ _ _ _) fun _ => keeps_bind (keeps_liftFault _) fun _ => keeps_pure _

end ToIPv4

section ToIPv6

variable (hfind : ∀ t a, P t → P (t.findHolder now a).2)
include hfind

theorem keeps_findHolder (a : IPv4) : Keeps P (findHolder now a) := fun t h => hfind t a h

theorem keeps_resolve6 (level : Level) (h : IPv4.Header) : Keeps P (resolve6 p now level h) := by
  cases level
  · exact keeps_bind (keeps_findHolder hfind _) fun _ => keeps_pure _
  · exact keeps_bind (keeps_findHolder hfind _) fun _ => keeps_pure _

theorem keeps_quoteIPv6 (data : Bytes) : Keeps P (quoteIPv6 p now data) :=
  keeps_bind (keeps_lift _) fun _ => keeps_bind (keeps_resolve6 hfind _ _) fun _ => keeps_liftFault _

theorem keeps_messageBody6 (c : Icmp.Counterpart) (rest : Bytes) : Keeps P (messageBody6 p now c rest) := by
  unfold messageBody6
  split
  · exact keeps_pure _
  · exact keeps_bind (keeps_quoteIPv6 hfind rest) fun _ => keeps_pure _

theorem keeps_body6 (packet : IPv4.Packet) (content : Content) (src dst : IPv6) :
    Keeps P (body6 p now packet content src dst) := by
  unfold body6
  split
  · exact keeps_liftFault _
  · exact keeps_bind (keeps_messageBody6 hfind _ _) fun _ => keeps_liftFault _

/-- Whatever becomes of an IPv4 packet, the leases are only looked up by address. -/
theorem keeps_toIPv6 (data : Bytes) : Keeps P (toIPv6 p now data) :=
  keeps_bind (keeps_lift _) fun _ => keeps_bind (keeps_resolve6 hfind _ _) fun _ =>
    keeps_bind (keeps_body6 hfind _ _ _ _) fun _ => keeps_bind (keeps_liftFault _) fun _ => keeps_pure _

end ToIPv6

end Keeps

end Nat64.Forwarding
