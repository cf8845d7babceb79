import Nat64.Bytes

/-!
# Fields of concatenated bytes

A field lies in one part of a concatenation, where it is found at the offset less the size of the parts before.

* `slice_append_left`, `slice_append_right`, and the same for bytes and words;
* a word is overwritten where it lies (`setWord_append_left`, `setWord_append_right`, `setWord_between`).
-/

namespace Nat64.Bytes

variable {a b : Bytes} {offset size : Nat}

theorem slice_append_left (h : offset + size ≤ a.length) : slice (a ++ b) offset size = slice a offset size := by
  unfold slice
  rw [List.drop_append_of_le_length (by omega), List.take_append_of_le_length (by simp; omega)]

theorem slice_append_right (h : a.length ≤ offset) : slice (a ++ b) offset size = slice b (offset - a.length) size := by
  unfold slice
  rw [List.drop_append, List.drop_eq_nil_of_le h, List.nil_append]

theorem slice_self (h : a.length ≤ size) : slice a 0 size = a := List.take_of_length_le h

theorem slice_drop (n : Nat) : slice (a.drop n) offset size = slice a (n + offset) size := by
  unfold slice
  rw [List.drop_drop]

theorem slice_take {n : Nat} (h : offset + size ≤ n) : slice (a.take n) offset size = slice a offset size := by
  unfold slice
  rw [List.drop_take, List.take_take, Nat.min_eq_left (by omega)]

/-- Neighbouring fields are one field. -/
theorem slice_add (a : Bytes) (offset m n : Nat) :
    slice a offset (m + n) = slice a offset m ++ slice a (offset + m) n := by
  unfold slice
  rw [List.take_add, List.drop_drop]

theorem slice_one (h : offset < a.length) : slice a offset 1 = [byteAt a offset] := by
  rw [slice, List.drop_eq_getElem_cons h, List.take_succ_cons, List.take_zero]
  simp [byteAt, List.getElem?_eq_getElem h]

theorem slice_two (h : offset + 2 ≤ a.length) : slice a offset 2 = [byteAt a offset, byteAt a (offset + 1)] := by
  rw [slice_add a offset 1 1, slice_one (by omega), slice_one (by omega)]
  rfl

theorem slice_four (h : offset + 4 ≤ a.length) :
    slice a offset 4 = [byteAt a offset, byteAt a (offset + 1), byteAt a (offset + 2), byteAt a (offset + 3)] := by
  rw [slice_add a offset 2 2, slice_two (by omega), slice_two (by omega)]
  rfl

theorem toNat_wordAt (h : offset + 2 ≤ a.length) :
    (wordAt a offset).toNat = (byteAt a offset).toNat * 0x100 + (byteAt a (offset + 1)).toNat := by
  have hhigh := (byteAt a offset).toNat_lt
  have hlow := (byteAt a (offset + 1)).toNat_lt
  rw [wordAt, slice_two h]
  simp [toNat_cons]
  omega

/-- What is read ends where the buffer does. -/
theorem length_slice_eq (a : Bytes) (offset size : Nat) :
    (slice a offset size).length = min (offset + size) a.length - offset := by
  rw [slice, List.length_take, List.length_drop]
  omega

theorem length_slice (h : offset + size ≤ a.length) : (slice a offset size).length = size := by
  rw [length_slice_eq]
  omega

/-- A number that was read is written as it was. -/
theorem ofNat_toNat_slice (h : offset + size ≤ a.length) :
    ofNat size (toNat (slice a offset size)) = slice a offset size := by
  have hback := ofNat_toNat (slice a offset size)
  rwa [length_slice h] at hback

/-- The last four bytes of a number are those of its lowest word. -/
theorem ofNat_add_four (w n : Nat) : ofNat (w + 4) n = ofNat w (n / 0x100000000) ++ ofNat 4 n := by
  induction w with
  | zero => rfl
  | succ w ih =>
    rw [Nat.add_right_comm, ofNat, ih, ofNat, Nat.pow_add, Nat.mul_comm, ← Nat.div_div_eq_div_mul]
    rfl

theorem byteAt_append_left (h : offset < a.length) : byteAt (a ++ b) offset = byteAt a offset := by
  simp only [byteAt, List.getD_eq_getElem?_getD, List.getElem?_append_left h]

theorem byteAt_append_right (h : a.length ≤ offset) : byteAt (a ++ b) offset = byteAt b (offset - a.length) := by
  simp only [byteAt, List.getD_eq_getElem?_getD, List.getElem?_append_right h]

theorem wordAt_append_left (h : offset + 2 ≤ a.length) : wordAt (a ++ b) offset = wordAt a offset := by
  rw [wordAt, slice_append_left h, wordAt]

theorem wordAt_append_right (h : a.length ≤ offset) : wordAt (a ++ b) offset = wordAt b (offset - a.length) := by
  rw [wordAt, slice_append_right h, wordAt]

theorem byteAt_take {n : Nat} (h : offset < n) : byteAt (a.take n) offset = byteAt a offset := by
  simp only [byteAt, List.getD_eq_getElem?_getD, List.getElem?_take_of_lt h]

theorem wordAt_take {n : Nat} (h : offset + 2 ≤ n) : wordAt (a.take n) offset = wordAt a offset := by
  rw [wordAt, slice_take h, wordAt]

theorem wordAt_drop (n : Nat) : wordAt (a.drop n) offset = wordAt a (n + offset) := by
  rw [wordAt, slice_drop, wordAt]

theorem toNat_ofWord (w : UInt16) : toNat (ofWord w) = w.toNat := by
  have := w.toNat_lt
  rw [ofWord, toNat_ofNat]
  omega

theorem wordAt_ofWord (w : UInt16) : wordAt (ofWord w) 0 = w := by
  rw [wordAt, slice_self (by simp), toNat_ofWord, UInt16.ofNat_toNat]

/-- The two bytes that a word was read from. -/
theorem ofWord_wordAt (h : offset + 2 ≤ a.length) : ofWord (wordAt a offset) = slice a offset 2 := by
  have hlt := toNat_lt (slice a offset 2)
  rw [length_slice h] at hlt
  rw [ofWord, wordAt, UInt16.toNat_ofNat', Nat.mod_eq_of_lt (by omega), ofNat_toNat_slice h]

/-- Writing what is there changes nothing. -/
theorem setWord_wordAt (h : offset + 2 ≤ a.length) : setWord a offset (wordAt a offset) = a := by
  rw [setWord, ofWord_wordAt h, slice, ← List.drop_drop, List.append_assoc, List.take_append_drop,
    List.take_append_drop]

theorem setWord_append_left (h : offset + 2 ≤ a.length) (w : UInt16) :
    setWord (a ++ b) offset w = setWord a offset w ++ b := by
  unfold setWord
  rw [List.take_append_of_le_length (by omega), List.drop_append_of_le_length h]
  simp only [List.append_assoc]

theorem setWord_append_right (a b : Bytes) (offset : Nat) (w : UInt16) :
    setWord (a ++ b) (a.length + offset) w = a ++ setWord b offset w := by
  rw [setWord, List.take_length_add_append, Nat.add_assoc, List.drop_length_add_append, setWord]
  simp only [List.append_assoc]

/-- Overwriting the word between two parts. -/
theorem setWord_between {front word back : Bytes} (hf : front.length = offset) (hw : word.length = 2) (w : UInt16) :
    setWord (front ++ (word ++ back)) offset w = front ++ (ofWord w ++ back) := by
  have hdrop : (front ++ (word ++ back)).drop (offset + 2) = back := by
    rw [← List.append_assoc]
    exact List.drop_left' (by simp [hf, hw])
  rw [setWord, List.take_left' hf, hdrop, List.append_assoc]

theorem byteAt_setWord {n : Nat} (hn : n < offset) (h : offset + 2 ≤ a.length) (w : UInt16) :
    byteAt (setWord a offset w) n = byteAt a n := by
  have hfront : n < (a.take offset).length := by
    rw [List.length_take]
    omega
  rw [setWord, List.append_assoc, byteAt_append_left hfront, byteAt_take hn]

/-- What follows a word is still there when the word is overwritten. -/
theorem drop_setWord {n : Nat} (hn : offset + 2 ≤ n) (h : offset + 2 ≤ a.length) (w : UInt16) :
    (setWord a offset w).drop n = a.drop n := by
  have hfront : (a.take offset ++ ofWord w).length = offset + 2 := by
    simp
    omega
  rw [setWord, List.drop_append, List.drop_eq_nil_of_le (by omega), List.nil_append, hfront, List.drop_drop,
    Nat.add_sub_cancel' hn]

theorem setWord_setWord (h : offset + 2 ≤ a.length) (v w : UInt16) :
    setWord (setWord a offset v) offset w = setWord a offset w := by
  have ha : a = a.take offset ++ (slice a offset 2 ++ a.drop (offset + 2)) := by
    rw [slice, ← List.drop_drop, List.take_append_drop, List.take_append_drop]
  have hfront : (a.take offset).length = offset := by
    rw [List.length_take]
    omega
  have hset (w : UInt16) : setWord a offset w = a.take offset ++ (ofWord w ++ a.drop (offset + 2)) := by
    rw [setWord, List.append_assoc]
  rw [hset v, setWord_between hfront (length_ofWord v), hset w]

end Nat64.Bytes
