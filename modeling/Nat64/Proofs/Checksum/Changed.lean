import Nat64.Proofs.Checksum.RoundTrip

/-!
# Changed data

A checksum that is brought up to date without the data is the one that the changed data has from scratch, bit for
bit, as long as there is anything to add up. Nothing but zeros add up to zero, which has two forms: from scratch
their checksum is `0xffff`, and an incremental change never leaves that form, whatever it replaces. So the two
differ on zeros, and only there.

* `Seals`: what carries over from one change to the next, and `Seals.replace`, which is one change.
* `Seals.eq_ofBytes`, `Seals.eq_zero`: which checksum that is.
* `replace_upToDate`: every word of every buffer, and every region of whole words.
-/

namespace Nat64.Checksum

variable {checksum : UInt16} {data front old new back : Bytes} {m n : Nat}

/-! ## Sums of regions and words -/

/-- A region between whole words counts as itself. -/
theorem exactSum_region (hfront : front.length % 2 = 0) (hold : old.length % 2 = 0) :
    exactSum (front ++ (old ++ back)) = exactSum front + (exactSum old + exactSum back) := by
  rw [exactSum_append hfront, exactSum_append hold]

/-- The sum of a region of whole words stands for it. -/
theorem standsFor_wordSum (h : old.length % 2 = 0) : StandsFor (wordSum old) old where
  sum_lt := Nat.lt_trans (wordSum_lt old) (by decide)
  same := same_wordSum old
  even := h

/-- A word stands for its two bytes. -/
theorem standsFor_ofWord (w : UInt16) : StandsFor w.toNat (Bytes.ofWord w) where
  sum_lt := Nat.lt_trans w.toNat_lt (by decide)
  same := by
    rw [exactSum_ofWord]
    exact Same.refl _
  even := by rw [Bytes.length_ofWord]

theorem fold_toNat (w : UInt16) : fold w.toNat = w :=
  eq_of_same (same_fold (Nat.lt_trans w.toNat_lt (by decide)))

/-! ## One change -/

/-- A checksum belongs to some data: together they add up to zero, and it has the form `0xffff` of zero only if there is
nothing to add up. It is all that a change needs to know, and what it leaves. -/
structure Seals (checksum : UInt16) (data : Bytes) : Prop where
  mod_eq : (exactSum data + checksum.toNat) % 65535 = 0
  of_ones : checksum = 0xffff → exactSum data = 0

theorem seals_ofBytes (data : Bytes) : Seals (ofBytes data) data where
  mod_eq := (completes_ofBytes data).2
  of_ones h := by
    have hones : (0xffff : UInt16).toNat = 65535 := rfl
    obtain ⟨k, hk, hle, hsame⟩ := same_not_fold (Nat.lt_trans (wordSum_lt data) (by decide))
    obtain ⟨-, hzero⟩ := hsame.trans (same_wordSum data)
    rw [ofBytes, ← UInt16.toNat_inj, hones, hk] at h
    exact hzero.1 (by omega)

namespace Seals

/-- The form `0xffff` comes of a change to no data at all. -/
theorem replace_ne_ones (h : Seals checksum (front ++ (old ++ back))) (hfront : front.length % 2 = 0)
    (hold : StandsFor m old) (w : UInt16) : Checksum.replace checksum (fold m) w ≠ 0xffff := by
  intro hones
  obtain ⟨hchecksum, hfold, -⟩ := eq_ones_of_replace hones
  have hnothing := h.of_ones hchecksum
  rw [exactSum_region hfront hold.even] at hnothing
  -- a region that adds up to nothing has the other form of zero
  have hzero : (fold m).toNat = 0 := ((same_fold hold.sum_lt).trans hold.same).2.2 (by omega)
  rw [hfold] at hzero
  cases hzero

/-- A change of one region of whole words to another. -/
theorem replace (h : Seals checksum (front ++ (old ++ back))) (hfront : front.length % 2 = 0) (hold : StandsFor m old)
    (hnew : StandsFor n new) :
    Seals (Checksum.replace checksum (fold m) (fold n)) (front ++ (new ++ back)) where
  mod_eq := by
    obtain ⟨hmodold, -⟩ := (same_fold hold.sum_lt).trans hold.same
    obtain ⟨hmodnew, -⟩ := (same_fold hnew.sum_lt).trans hnew.same
    have hreplaced := replace_mod checksum (fold m) (fold n)
    have hbefore := h.mod_eq
    rw [exactSum_region hfront hold.even] at hbefore
    rw [exactSum_region hfront hnew.even]
    omega
  of_ones hones := absurd hones (h.replace_ne_ones hfront hold _)

/-- If there is anything to add up, there is one such checksum. -/
theorem eq_ofBytes (h : Seals checksum data) (hpos : 0 < exactSum data) : checksum = ofBytes data :=
  Checksum.eq_ofBytes (fun hones => Nat.ne_of_gt hpos (h.of_ones hones)) h.mod_eq hpos

/-- If there is nothing to add up, there are two. -/
theorem eq_zero (h : Seals checksum data) (hzero : exactSum data = 0) (hones : checksum ≠ 0xffff) : checksum = 0 := by
  have hvalue : (0xffff : UInt16).toNat = 65535 := rfl
  have hnone : (0 : UInt16).toNat = 0 := rfl
  have hlt := checksum.toNat_lt
  have hmod := h.mod_eq
  rw [ne_eq, ← UInt16.toNat_inj, hvalue] at hones
  rw [← UInt16.toNat_inj, hnone]
  omega

end Seals

/-- From scratch, nothing to add up gives the form `0xffff`. -/
theorem ofBytes_of_zeros (h : exactSum data = 0) : ofBytes data = 0xffff := by
  have hones : (0xffff : UInt16).toNat = 65535 := rfl
  have hlt := (ofBytes data).toNat_lt
  obtain ⟨hpos, hmod⟩ := completes_ofBytes data
  rw [← UInt16.toNat_inj, hones]
  omega

/-! ## Every change -/

/-- What a checksum is after an incremental change that left this data. -/
structure UpToDate (checksum : UInt16) (data : Bytes) : Prop where
  /-- It is the checksum from scratch if any byte is not zero. -/
  eq_ofBytes : (∃ b ∈ data, b ≠ 0) → checksum = ofBytes data
  /-- If all are, it has the one form of zero, and the checksum from scratch has the other. -/
  of_zeros : (∀ b ∈ data, b = 0) → checksum = 0 ∧ ofBytes data = 0xffff

theorem Seals.upToDate (h : Seals checksum data) (hones : checksum ≠ 0xffff) : UpToDate checksum data where
  eq_ofBytes := by
    rintro ⟨b, hb, hne⟩
    refine h.eq_ofBytes (Nat.pos_of_ne_zero fun hzero => ?_)
    exact hne (exactSum_eq_zero.1 hzero b hb)
  of_zeros hzeros := by
    have hzero := exactSum_eq_zero.2 hzeros
    exact ⟨h.eq_zero hzero hones, ofBytes_of_zeros hzero⟩

/-- The checksum of some data is up to date after a change of a region to one that another sum stands for. -/
theorem upToDate_replace (back : Bytes) (hfront : front.length % 2 = 0) (hold : StandsFor m old)
    (hnew : StandsFor n new) :
    UpToDate (replace (ofBytes (front ++ (old ++ back))) (fold m) (fold n)) (front ++ (new ++ back)) :=
  have h := seals_ofBytes (front ++ (old ++ back))
  (h.replace hfront hold hnew).upToDate (h.replace_ne_ones hfront hold _)

theorem upToDate_setWord {offset : Nat} (hoffset : offset % 2 = 0) (hlength : offset + 2 ≤ data.length) (w : UInt16) :
    UpToDate (replace (ofBytes data) (Bytes.wordAt data offset) w) (Bytes.setWord data offset w) := by
  have hfront : (data.take offset).length % 2 = 0 := by
    rw [List.length_take]
    omega
  have hword := upToDate_replace (data.drop (offset + 2)) hfront
    (standsFor_ofWord (Bytes.wordAt data offset)) (standsFor_ofWord w)
  rw [fold_toNat, fold_toNat, ← List.append_assoc, ← List.append_assoc] at hword
  rwa [← Bytes.setWord, ← Bytes.setWord, Bytes.setWord_wordAt hlength] at hword

/-- An incremental change is as good as adding up the changed data from scratch. For every word of every buffer that
starts at an even offset, and for every region of whole words that starts at one, whatever the lengths of the old region
and the new: the checksum after the change is that of the changed data, unless this is all zeros, when the change leaves
`0x0000` and the checksum from scratch is `0xffff`. -/
theorem replace_upToDate :
    (∀ (data : Bytes) (offset : Nat) (new : UInt16), offset % 2 = 0 → offset + 2 ≤ data.length →
      UpToDate (replace (ofBytes data) (Bytes.wordAt data offset) new) (Bytes.setWord data offset new)) ∧
    (∀ front old new back : Bytes, front.length % 2 = 0 → old.length % 2 = 0 → new.length % 2 = 0 →
      UpToDate (replace (ofBytes (front ++ (old ++ back))) (fold (wordSum old)) (fold (wordSum new)))
        (front ++ (new ++ back))) := by
  constructor
  · intro data offset new hoffset hlength
    exact upToDate_setWord hoffset hlength new
  · intro front old new back hfront hold hnew
    exact upToDate_replace back hfront (standsFor_wordSum hold) (standsFor_wordSum hnew)

/-- A word and a longer region are replaced in front of an odd byte, and the only word that is not zero is cleared. -/
theorem replace_upToDate_samples :
    (replace (ofBytes [0xab, 0xcd, 0x12, 0x34, 0x56]) 0x1234 0xffff = ofBytes [0xab, 0xcd, 0xff, 0xff, 0x56] ∧
      UpToDate (replace (ofBytes [0xab, 0xcd, 0x12, 0x34, 0x56]) 0x1234 0xffff) [0xab, 0xcd, 0xff, 0xff, 0x56]) ∧
    (replace (ofBytes [0, 0, 0x12, 0x34, 0]) 0x1234 0 = 0 ∧ ofBytes [0, 0, 0, 0, 0] = 0xffff) ∧
    replace (ofBytes [0xab, 0xcd, 0x12, 0x34, 0x56]) (fold (wordSum [0xab, 0xcd]))
        (fold (wordSum [0xff, 0xfe, 0, 1, 0, 2]))
      = ofBytes [0xff, 0xfe, 0, 1, 0, 2, 0x12, 0x34, 0x56] := by
  obtain ⟨hword, hregion⟩ := replace_upToDate
  have hset :
      UpToDate (replace (ofBytes [0xab, 0xcd, 0x12, 0x34, 0x56]) 0x1234 0xffff) [0xab, 0xcd, 0xff, 0xff, 0x56] :=
    hword [0xab, 0xcd, 0x12, 0x34, 0x56] 2 0xffff (by decide) (by decide)
  have hclear : UpToDate (replace (ofBytes [0, 0, 0x12, 0x34, 0]) 0x1234 0) [0, 0, 0, 0, 0] :=
    hword [0, 0, 0x12, 0x34, 0] 2 0 (by decide) (by decide)
  have hgrown := hregion [] [0xab, 0xcd] [0xff, 0xfe, 0, 1, 0, 2] [0x12, 0x34, 0x56] (by decide) (by decide) (by decide)
  exact ⟨⟨hset.eq_ofBytes ⟨0xab, by decide, by decide⟩, hset⟩, hclear.of_zeros (by simp),
    hgrown.eq_ofBytes ⟨0xff, by decide, by decide⟩⟩

end Nat64.Checksum
