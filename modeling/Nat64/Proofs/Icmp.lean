import Mathlib.Order.MinMax
import Mathlib.Order.Nat
import Nat64.Proofs.Forwarding.Contents

/-!
# What control messages are about

The tables for ICMP and for ICMPv6 are two readings of one dictionary. A message with a counterpart is about some topic;
the counterpart is the message of the other family about it. Reading that one gives the topic back, but for the limits
of links, which are brought into the range of the family they were written for.

* `Icmp.Topic`: the topics, with type, codes and value of their messages in both families.
* `counterpart_eq_ok_some`: both tables, as the dictionary has them.
* `Topic.about_message`: what is read from a message that was written.
* `Icmp.counterparts_agree`: from one family to the other, back, and there again.
-/

namespace Nat64.Icmp

/-! ## The dictionary -/

/-- What a message with a counterpart is about. -/
inductive Topic where
  | echo (e : Echo) (rest : UInt32)
  | unreachable
  /-- An administrator forbids it. -/
  | prohibited
  | noSuchProtocol
  | noSuchPort
  /-- The next link has room for so many bytes in IPv4. -/
  | tooLarge (limit : Nat)
  | noHopsLeft
  /-- A fragment is missing when time is up. -/
  | incomplete
deriving DecidableEq

namespace Topic

/-- Whether a message about the topic reports an error. -/
def nature : Topic → Nature
  | echo _ _ => .informational
  | _ => .error

/-- The type of the messages of a family about a topic. -/
def type : Family → Topic → UInt8
  | family, echo e _ => e.type family
  | .ipv4, noHopsLeft | .ipv4, incomplete => 11
  | .ipv4, _ => 3
  | .ipv6, unreachable | .ipv6, prohibited | .ipv6, noSuchPort => 1
  | .ipv6, tooLarge _ => 2
  | .ipv6, noHopsLeft | .ipv6, incomplete => 3
  | .ipv6, noSuchProtocol => 4

/-- Their codes, first the one that is written; nothing if codes do not matter. -/
def codes : Family → Topic → Option (List UInt8)
  | _, echo _ _ => none
  | .ipv4, unreachable => some [1, 0, 5, 6, 7, 8, 11, 12]
  | .ipv6, unreachable => some [0, 2, 3]
  | .ipv4, prohibited => some [10, 9, 13, 15]
  | .ipv6, prohibited => some [1]
  | .ipv4, noSuchProtocol => some [2]
  | .ipv6, noSuchProtocol => some [1]
  | .ipv4, noSuchPort => some [3]
  | .ipv6, noSuchPort => some [4]
  | .ipv4, tooLarge _ => some [4]
  | .ipv6, tooLarge _ => none
  | _, noHopsLeft => some [0]
  | _, incomplete => some [1]

/-- The code that is written. -/
def code (family : Family) (t : Topic) : UInt8 := ((t.codes family).getD []).headD 0

/-- The value that goes with the type. -/
def rest : Family → Topic → UInt32
  | _, echo _ rest => rest
  | .ipv6, noSuchProtocol => 6
  | .ipv4, tooLarge limit => UInt32.ofNat (min limit 0xffff)
  | .ipv6, tooLarge limit => UInt32.ofNat (limitToIPv6 limit)
  | _, _ => 0

/-- The message of a family about a topic. -/
def message (family : Family) (t : Topic) : Counterpart := ⟨t.nature, t.type family, t.code family, t.rest family⟩

/-- The value of a message is the one that goes with a topic. -/
def Carries : Family → Header → Topic → Prop
  | _, h, echo _ rest => rest = h.rest
  | .ipv4, h, tooLarge limit => limit = h.mtu4
  | .ipv6, h, tooLarge limit => limit = h.mtu6 - headerGrowth
  | _, _, _ => True

/-- A message of a family is about a topic. -/
structure About (family : Family) (h : Header) (t : Topic) : Prop where
  type_eq : h.type = t.type family
  code_mem : ∀ codes, t.codes family = some codes → h.code ∈ codes
  carries : t.Carries family h

end Topic

variable {family : Family} {h : Header} {c : Counterpart} {t : Topic}

namespace Topic

theorem about_echo {e : Echo} (htype : h.type = e.type family) : (echo e h.rest).About family h where
  type_eq := htype
  code_mem _ hcodes := by cases hcodes
  carries := by cases family <;> rfl

theorem about_of_code {codes : List UInt8} (hcodes : t.codes family = some codes)
    (htype : h.type.toNat = (t.type family).toNat) (hcode : h.code.toNat ∈ codes.map UInt8.toNat)
    (hvalue : t.Carries family h) : t.About family h where
  type_eq := UInt8.toNat_inj.1 htype
  code_mem others hothers := by
    obtain ⟨code, hmem, heq⟩ := List.mem_map.1 hcode
    rw [hcodes] at hothers
    cases hothers
    rwa [← UInt8.toNat_inj.1 heq]
  carries := hvalue

end Topic

/-! ## The tables -/

theorem about_of_toIPv6 (hc : toIPv6 h = .ok (some c)) : ∃ t : Topic, t.About .ipv4 h ∧ c = t.message .ipv6 := by
  unfold toIPv6 at hc
  split at hc <;> rename_i htype
  · cases hc
    exact ⟨.echo .request h.rest, Topic.about_echo (UInt8.toNat_inj.1 htype), rfl⟩
  · cases hc
    exact ⟨.echo .reply h.rest, Topic.about_echo (UInt8.toNat_inj.1 htype), rfl⟩
  · split at hc <;> rename_i hcode <;> cases hc
    case h_9.refl | h_10.refl | h_11.refl | h_12.refl =>
      exact ⟨.prohibited, Topic.about_of_code rfl htype (by rw [hcode]; decide) trivial, rfl⟩
    case h_13.refl => exact ⟨.noSuchProtocol, Topic.about_of_code rfl htype (by rw [hcode]; decide) trivial, rfl⟩
    case h_14.refl => exact ⟨.noSuchPort, Topic.about_of_code rfl htype (by rw [hcode]; decide) trivial, rfl⟩
    case h_15.refl => exact ⟨.tooLarge h.mtu4, Topic.about_of_code rfl htype (by rw [hcode]; decide) rfl, rfl⟩
    all_goals exact ⟨.unreachable, Topic.about_of_code rfl htype (by rw [hcode]; decide) trivial, rfl⟩
  · split at hc <;> rename_i hcode <;> cases hc
    · have hzero : h.code = 0 := UInt8.toNat_inj.1 hcode
      exact ⟨.noHopsLeft, Topic.about_of_code rfl htype (by rw [hcode]; decide) trivial, by rw [hzero]; rfl⟩
    · have hone : h.code = 1 := UInt8.toNat_inj.1 hcode
      exact ⟨.incomplete, Topic.about_of_code rfl htype (by rw [hcode]; decide) trivial, by rw [hone]; rfl⟩
  all_goals cases hc

theorem toIPv6_of_about (ht : t.About .ipv4 h) : toIPv6 h = .ok (some (t.message .ipv6)) := by
  obtain ⟨htype, hcode, hvalue⟩ := ht
  obtain ⟨type, code, checksum, value⟩ := h
  cases htype
  cases t with
  | echo e rest =>
    obtain rfl : rest = value := hvalue
    cases e <;> rfl
  | unreachable =>
    have hmem := hcode _ rfl
    simp only [List.mem_cons, List.not_mem_nil, or_false] at hmem
    rcases hmem with rfl | rfl | rfl | rfl | rfl | rfl | rfl | rfl <;> rfl
  | prohibited =>
    have hmem := hcode _ rfl
    simp only [List.mem_cons, List.not_mem_nil, or_false] at hmem
    rcases hmem with rfl | rfl | rfl | rfl <;> rfl
  | tooLarge limit =>
    cases List.mem_singleton.1 (hcode _ rfl)
    rw [show limit = _ from hvalue]
    rfl
  | noSuchProtocol | noSuchPort | noHopsLeft | incomplete =>
    cases List.mem_singleton.1 (hcode _ rfl)
    rfl

theorem about_of_toIPv4 (hc : toIPv4 h = .ok (some c)) : ∃ t : Topic, t.About .ipv6 h ∧ c = t.message .ipv4 := by
  unfold toIPv4 at hc
  split at hc <;> rename_i htype
  · cases hc
    exact ⟨.echo .request h.rest, Topic.about_echo (UInt8.toNat_inj.1 htype), rfl⟩
  · cases hc
    exact ⟨.echo .reply h.rest, Topic.about_echo (UInt8.toNat_inj.1 htype), rfl⟩
  · split at hc <;> rename_i hcode <;> cases hc
    case h_4.refl => exact ⟨.prohibited, Topic.about_of_code rfl htype (by rw [hcode]; decide) trivial, rfl⟩
    case h_5.refl => exact ⟨.noSuchPort, Topic.about_of_code rfl htype (by rw [hcode]; decide) trivial, rfl⟩
    all_goals exact ⟨.unreachable, Topic.about_of_code rfl htype (by rw [hcode]; decide) trivial, rfl⟩
  · cases hc
    exact ⟨.tooLarge (h.mtu6 - headerGrowth), ⟨UInt8.toNat_inj.1 htype, fun _ hcodes => (by cases hcodes), rfl⟩, rfl⟩
  · split at hc <;> rename_i hcode <;> cases hc
    · have hzero : h.code = 0 := UInt8.toNat_inj.1 hcode
      exact ⟨.noHopsLeft, Topic.about_of_code rfl htype (by rw [hcode]; decide) trivial, by rw [hzero]; rfl⟩
    · have hone : h.code = 1 := UInt8.toNat_inj.1 hcode
      exact ⟨.incomplete, Topic.about_of_code rfl htype (by rw [hcode]; decide) trivial, by rw [hone]; rfl⟩
  · split at hc <;> rename_i hcode <;> cases hc
    exact ⟨.noSuchProtocol, Topic.about_of_code rfl htype (by rw [hcode]; decide) trivial, rfl⟩
  all_goals cases hc

theorem toIPv4_of_about (ht : t.About .ipv6 h) : toIPv4 h = .ok (some (t.message .ipv4)) := by
  obtain ⟨htype, hcode, hvalue⟩ := ht
  obtain ⟨type, code, checksum, value⟩ := h
  cases htype
  cases t with
  | echo e rest =>
    obtain rfl : rest = value := hvalue
    cases e <;> rfl
  | unreachable =>
    have hmem := hcode _ rfl
    simp only [List.mem_cons, List.not_mem_nil, or_false] at hmem
    rcases hmem with rfl | rfl | rfl <;> rfl
  | tooLarge limit =>
    rw [show limit = _ from hvalue]
    rfl
  | prohibited | noSuchProtocol | noSuchPort | noHopsLeft | incomplete =>
    cases List.mem_singleton.1 (hcode _ rfl)
    rfl

/-- Both tables are the dictionary. -/
theorem counterpart_eq_ok_some :
    counterpart family h = .ok (some c) ↔ ∃ t : Topic, t.About family h ∧ c = t.message family.other := by
  constructor
  · intro hc
    cases family with
    | ipv4 => exact about_of_toIPv6 hc
    | ipv6 => exact about_of_toIPv4 hc
  · rintro ⟨t, ht, rfl⟩
    cases family with
    | ipv4 => exact toIPv6_of_about ht
    | ipv6 => exact toIPv4_of_about ht

/-! ## Reading what was written -/

namespace Topic

/-- A topic as the messages of a family can tell it: the limits of links stay in range. -/
def within : Family → Topic → Topic
  | .ipv4, tooLarge limit => tooLarge (min limit 0xffff)
  | .ipv6, tooLarge limit => tooLarge (max limit (minimumMtu - headerGrowth))
  | _, t => t

/-- A limit, if there is one, leaves room for the larger header in 32 bits. -/
def Fits : Topic → Prop
  | tooLarge limit => limit + headerGrowth < 0x100000000
  | _ => True

theorem nature_within (family : Family) (t : Topic) : (t.within family).nature = t.nature := by
  cases family <;> cases t <;> rfl

theorem type_within (family family' : Family) (t : Topic) : (t.within family).type family' = t.type family' := by
  cases family <;> cases t <;> cases family' <;> rfl

theorem isError_type (family : Family) (t : Topic) : isError family (t.type family) = true ↔ t.nature = .error := by
  cases t with
  | echo e rest =>
    have hno : isError family (e.type family) = false := isError_echo family e
    simp [type, nature, hno]
  | _ => cases family <;> exact ⟨fun _ => rfl, fun _ => rfl⟩

theorem Fits.within (ht : t.Fits) (family : Family) : (t.within family).Fits := by
  cases t with
  | tooLarge limit =>
    have hlimit : limit + 20 < 0x100000000 := ht
    cases family with
    | ipv4 => exact Nat.lt_of_le_of_lt (Nat.add_le_add_right (Nat.min_le_left limit 0xffff) 20) hlimit
    | ipv6 =>
      show max limit 1260 + 20 < 0x100000000
      omega
  | _ => cases family <;> trivial

theorem About.fits (ht : t.About family h) : t.Fits := by
  have hvalue := ht.carries
  cases t with
  | tooLarge limit =>
    have hrest := h.rest.toNat_lt
    have hgrowth : headerGrowth = 20 := rfl
    rw [Fits]
    cases family with
    | ipv4 =>
      have hlimit : limit = h.rest.toNat % 0x10000 := hvalue
      omega
    | ipv6 =>
      have hlimit : limit = h.rest.toNat - headerGrowth := hvalue
      omega
  | _ => trivial

/-- The code that is written is one of those that are read. -/
theorem code_mem_codes (family : Family) (t : Topic) {codes : List UInt8} (h : t.codes family = some codes) :
    t.code family ∈ codes := by
  cases family <;> cases t <;> cases h <;> exact List.mem_cons_self

theorem codes_within (family : Family) (t : Topic) : (t.within family).codes family = t.codes family := by
  cases family <;> cases t <;> rfl

/-- The limit that is read is the one that was written, in range. -/
theorem carries_message (family : Family) (ht : t.Fits) (checksum : UInt16) :
    (t.within family).Carries family ((t.message family).header checksum) := by
  cases t with
  | echo e rest => cases family <;> rfl
  | tooLarge limit =>
    have hgrowth : headerGrowth = 20 := rfl
    have hminimum : minimumMtu = 1280 := rfl
    have hfits : limit + headerGrowth < 0x100000000 := ht
    cases family with
    | ipv4 =>
      show min limit 0xffff = (UInt32.ofNat (min limit 0xffff)).toNat % 0x10000
      rw [UInt32.toNat_ofNat']
      omega
    | ipv6 =>
      show max limit (minimumMtu - headerGrowth) =
        (UInt32.ofNat (max (limit + headerGrowth) minimumMtu)).toNat - headerGrowth
      rw [UInt32.toNat_ofNat']
      omega
  | _ => cases family <;> trivial

/-- A message is about what it was written for. -/
theorem about_message (family : Family) (ht : t.Fits) (checksum : UInt16) :
    (t.within family).About family ((t.message family).header checksum) where
  type_eq := (type_within family family t).symm
  code_mem codes hcodes := by
    rw [codes_within] at hcodes
    exact code_mem_codes family t hcodes
  carries := carries_message family ht checksum

theorem message_tooLarge_ipv4 {limit limit' : Nat} :
    (tooLarge limit).message .ipv4 = (tooLarge limit').message .ipv4 ↔ min limit 0xffff = min limit' 0xffff := by
  refine ⟨fun hmessage => ?_, fun hlimit => ?_⟩
  · have hrest : (UInt32.ofNat (min limit 0xffff)).toNat = (UInt32.ofNat (min limit' 0xffff)).toNat :=
      congrArg (fun c => c.rest.toNat) hmessage
    rw [UInt32.toNat_ofNat', UInt32.toNat_ofNat'] at hrest
    omega
  · exact congrArg (fun limit => (⟨.error, 3, 4, UInt32.ofNat limit⟩ : Counterpart)) hlimit

theorem type_ipv6_eq_two (h : t.type .ipv6 = 2) : ∃ limit, t = tooLarge limit := by
  cases t with
  | tooLarge limit => exact ⟨limit, rfl⟩
  | echo e rest => cases e <;> cases h
  | _ => cases h

/-- What is left after both ways: everything, unless a limit of IPv6 is one that IPv6 does not allow. -/
theorem message_within_within (ht : t.About family h) :
    ((t.within family.other).within family).message family.other = t.message family.other ↔
      ¬ (family = .ipv6 ∧ h.type = 2 ∧ h.mtu6 < minimumMtu) := by
  have hvalue := ht.carries
  cases family with
  | ipv4 =>
    refine ⟨fun _ himpossible => (by cases himpossible.1), fun _ => ?_⟩
    cases t with
    | tooLarge limit =>
      have hlimit : limit = h.rest.toNat % 0x10000 := hvalue
      have hsame : limitToIPv6 (min (max limit 1260) 0xffff) = limitToIPv6 limit := by
        rw [limitToIPv6, limitToIPv6, headerGrowth, minimumMtu]
        omega
      exact congrArg (fun limit => (⟨.error, 2, 0, UInt32.ofNat limit⟩ : Counterpart)) hsame
    | _ => rfl
  | ipv6 =>
    by_cases htype : h.type = 2
    · obtain ⟨limit, rfl⟩ := type_ipv6_eq_two (ht.type_eq.symm.trans htype)
      have hlimit : limit = h.mtu6 - 20 := hvalue
      have hmessage : (tooLarge (max (min limit 0xffff) 1260)).message .ipv4 = (tooLarge limit).message .ipv4 ↔
          1260 ≤ limit := by
        rw [message_tooLarge_ipv4]
        omega
      refine hmessage.trans ⟨fun hlow hhigh => ?_, fun hlow => ?_⟩
      · have hmtu : h.mtu6 < 1280 := hhigh.2.2
        omega
      · have hmtu : 1280 ≤ h.mtu6 := Nat.not_lt.1 fun hhigh => hlow ⟨rfl, htype, hhigh⟩
        omega
    · refine ⟨fun _ himpossible => htype himpossible.2.1, fun _ => ?_⟩
      cases t with
      | tooLarge limit => exact absurd ht.type_eq htype
      | _ => rfl

/-- Which messages are about a limit, and about which. -/
theorem about_tooLarge_ipv4 (htype : h.type = 3) (hcode : h.code = 4) : (tooLarge h.mtu4).About .ipv4 h where
  type_eq := htype
  code_mem _ hcodes := by
    cases hcodes
    exact List.mem_singleton.2 hcode
  carries := rfl

theorem about_tooLarge_ipv6 (htype : h.type = 2) : (tooLarge (h.mtu6 - headerGrowth)).About .ipv6 h where
  type_eq := htype
  code_mem _ hcodes := by cases hcodes
  carries := rfl

theorem About.eq_tooLarge (ht : t.About .ipv4 h) (htype : h.type = 3) (hcode : h.code = 4) : t = tooLarge h.mtu4 := by
  cases t with
  | tooLarge limit => exact congrArg tooLarge ht.carries
  | echo e rest =>
    have htypes := ht.type_eq.symm.trans htype
    cases e <;> cases htypes
  | noHopsLeft | incomplete => cases ht.type_eq.symm.trans htype
  | unreachable | prohibited | noSuchProtocol | noSuchPort =>
    have hmem := ht.code_mem _ rfl
    rw [hcode] at hmem
    exact absurd hmem (by decide)

/-- A limit that was brought into the range of IPv6, as ICMP has it in 16 bits. -/
theorem mtu4_back (h : Header) (checksum : UInt16) :
    ((((tooLarge h.mtu4).within .ipv6).message .ipv4).header checksum).mtu4 = max h.mtu4 1260 := by
  have hmtu : h.mtu4 < 0x10000 := Nat.mod_lt _ (by decide)
  show (UInt32.ofNat (min (max h.mtu4 1260) 0xffff)).toNat % 0x10000 = _
  rw [UInt32.toNat_ofNat']
  omega

theorem rest_message (ht : t.About family h) (hnature : t.nature = .informational) (family' : Family) :
    t.rest family' = h.rest := by
  have hvalue := ht.carries
  cases t with
  | echo e rest => cases family <;> exact hvalue
  | _ => cases hnature

end Topic

/-! ## There and back -/

theorem other_other (family : Family) : family.other.other = family := by
  cases family <;> rfl

theorem monotone_limitToIPv6 : Monotone limitToIPv6 := fun _ _ h => max_le_max_right _ (Nat.add_le_add_right h _)

theorem monotone_limitToIPv4 : Monotone limitToIPv4 := fun _ _ h => min_le_min_right _ (Nat.sub_le_sub_right h _)

/-- A limit of 16 bits has room for the growth in 32 bits. -/
theorem limitToIPv6_lt (h : Header) : limitToIPv6 h.mtu4 < 0x100000000 := by
  have hmtu : h.mtu4 < 0x10000 := Nat.mod_lt _ (by decide)
  rw [limitToIPv6, headerGrowth, minimumMtu]
  omega

theorem limitToIPv4_lt (mtu : Nat) : limitToIPv4 mtu < 0x100000000 :=
  Nat.lt_of_le_of_lt (Nat.min_le_right _ _) (by decide)

/-- A counterpart has a counterpart in its turn. -/
theorem counterpart_message (family : Family) (ht : t.Fits) (checksum : UInt16) :
    counterpart family ((t.message family).header checksum) = .ok (some ((t.within family).message family.other)) :=
  counterpart_eq_ok_some.2 ⟨_, Topic.about_message family ht checksum, rfl⟩

/-- The two tables agree. A message and its counterpart are errors or not alike, and echo messages keep their value. The
counterpart has a counterpart of its own, of the type of the message; going on from there leads to the first counterpart
again, unless the message came with a limit that IPv6 does not allow. Limits keep their order and are never cut off. -/
theorem counterparts_agree :
    (∀ family h c, counterpart family h = .ok (some c) →
      (c.nature = .error ↔ isError family h.type = true) ∧
      (c.nature = .error ↔ isError family.other c.type = true) ∧
      (c.nature = .informational → c.rest = h.rest) ∧
      ∀ checksum, ∃ back, counterpart family.other (c.header checksum) = .ok (some back) ∧
        back.nature = c.nature ∧ back.type = h.type ∧ (back.nature = .informational → back.rest = h.rest) ∧
        (family = .ipv4 → h.type = 3 → h.code = 4 → back.code = 4 ∧ (back.header checksum).mtu4 = max h.mtu4 1260) ∧
        ∃ again, counterpart family (back.header checksum) = .ok (some again) ∧
          (again = c ↔ ¬ (family = .ipv6 ∧ h.type = 2 ∧ h.mtu6 < 1280))) ∧
    (∀ h, h.type = 3 → h.code = 4 → ∃ c, toIPv6 h = .ok (some c) ∧ c.rest.toNat = limitToIPv6 h.mtu4) ∧
    (∀ h, h.type = 2 → ∃ c, toIPv4 h = .ok (some c) ∧ c.rest.toNat = limitToIPv4 h.mtu6) ∧
    Monotone limitToIPv6 ∧ Monotone limitToIPv4 := by
  refine ⟨fun family h c hc => ?_, fun h htype hcode => ?_, fun h htype => ?_, monotone_limitToIPv6,
    monotone_limitToIPv4⟩
  · obtain ⟨t, ht, rfl⟩ := counterpart_eq_ok_some.1 hc
    refine ⟨?_, ?_, fun hnature => Topic.rest_message ht hnature _, fun checksum => ?_⟩
    · rw [ht.type_eq]
      exact (Topic.isError_type family t).symm
    · exact (Topic.isError_type family.other t).symm
    · have hback := counterpart_message family.other ht.fits checksum
      have hagain := counterpart_message family (ht.fits.within family.other) checksum
      rw [other_other] at hback
      refine ⟨_, hback, Topic.nature_within _ t, ?_, fun hnature => ?_, fun hfamily htype hcode => ?_, _, hagain,
        Topic.message_within_within ht⟩
      · exact (Topic.type_within _ _ t).trans ht.type_eq.symm
      · have hsame := Topic.rest_message (Topic.about_message family.other ht.fits checksum) hnature family
        exact hsame.trans (Topic.rest_message ht ((Topic.nature_within _ t).symm.trans hnature) _)
      · subst hfamily
        obtain rfl := ht.eq_tooLarge htype hcode
        exact ⟨rfl, Topic.mtu4_back h checksum⟩
  · refine ⟨_, toIPv6_of_about (Topic.about_tooLarge_ipv4 htype hcode), ?_⟩
    exact UInt32.toNat_ofNat_of_lt' (limitToIPv6_lt h)
  · refine ⟨_, toIPv4_of_about (Topic.about_tooLarge_ipv6 htype), ?_⟩
    exact UInt32.toNat_ofNat_of_lt' (limitToIPv4_lt h.mtu6)

/-- A link for 1000 bytes, which IPv6 does not allow, the same limit as IPv6 would have it, and an echo request. -/
theorem counterparts_agree_samples :
    (∃ back, toIPv4 ((⟨.error, 2, 0, 1280⟩ : Counterpart).header 7) = .ok (some back) ∧ back.type = 3 ∧
      (back.header 7).mtu4 = 1260) ∧
    (∃ back again, toIPv6 ((⟨.error, 3, 4, 1000⟩ : Counterpart).header 7) = .ok (some back) ∧
      toIPv4 (back.header 7) = .ok (some again) ∧ again ≠ ⟨.error, 3, 4, 1000⟩) ∧
    ∃ back, toIPv4 ((⟨.informational, 128, 0, 0x12340001⟩ : Counterpart).header 7) = .ok (some back) ∧
      back.rest = 0x12340001 := by
  obtain ⟨hboth, _⟩ := counterparts_agree
  refine ⟨?_, ?_, ?_⟩
  · obtain ⟨_, _, _, hback⟩ := hboth .ipv4 ⟨3, 4, 0, 1000⟩ ⟨.error, 2, 0, 1280⟩ rfl
    obtain ⟨back, hfirst, _, htype, _, hlimit, _⟩ := hback 7
    exact ⟨back, hfirst, htype, (hlimit rfl rfl rfl).2⟩
  · obtain ⟨_, _, _, hback⟩ := hboth .ipv6 ⟨2, 0, 0, 1020⟩ ⟨.error, 3, 4, 1000⟩ rfl
    obtain ⟨back, hfirst, _, _, _, _, again, hsecond, hsame⟩ := hback 7
    exact ⟨back, again, hfirst, hsecond, fun heq => hsame.1 heq ⟨rfl, rfl, by decide⟩⟩
  · obtain ⟨_, _, _, hback⟩ := hboth .ipv4 ⟨8, 0, 0, 0x12340001⟩ ⟨.informational, 128, 0, 0x12340001⟩ rfl
    obtain ⟨back, hfirst, hnature, _, hrest, _⟩ := hback 7
    exact ⟨back, hfirst, hrest hnature⟩

end Nat64.Icmp
