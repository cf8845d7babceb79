/-!
# Bytes in network order

Packets are lists of bytes, and every number in them is big-endian. This file holds the coder all header fields are
built from, and access to a field by its offset.

* `Bytes.ofNat w n` / `Bytes.toNat`: a number as exactly `w` bytes and back, with `toNat_ofNat` (the number modulo
  `256 ^ w`) and `ofNat_toNat` (bytes are not lost).
* `Bytes.byteAt`, `Bytes.wordAt`, `Bytes.slice`: fields by offset; `Bytes.setWord` overwrites a 16-bit field.
-/

namespace Nat64

/-- A run of bytes, first byte first. -/
abbrev Bytes := List UInt8

namespace Bytes

-- Powers of natural numbers mean the same here whatever else is in scope.
attribute [local instance (2000)] instPowNat

/-! ## Big-endian numbers -/

/-- The number with the given big-endian bytes. -/
def toNat : Bytes → Nat
  | [] => 0
  | b :: rest => b.toNat * 256 ^ rest.length + toNat rest

/-- The `w` big-endian bytes of `n`; bits above `8 * w` are dropped. -/
def ofNat : Nat → Nat → Bytes
  | 0, _ => []
  | w + 1, n => UInt8.ofNat (n / 256 ^ w) :: ofNat w n

@[simp] theorem toNat_nil : toNat [] = 0 := rfl

theorem toNat_cons (b : UInt8) (rest : Bytes) : toNat (b :: rest) = b.toNat * 256 ^ rest.length + toNat rest := rfl

@[simp] theorem length_ofNat (w n : Nat) : (ofNat w n).length = w := by
  induction w with
  | zero => rfl
  | succ w ih => simp [ofNat, ih]

theorem toNat_lt (data : Bytes) : toNat data < 256 ^ data.length := by
  induction data with
  | nil => simp
  | cons b rest ih =>
    have hb := b.toNat_lt
    have : b.toNat * 256 ^ rest.length ≤ 255 * 256 ^ rest.length := Nat.mul_le_mul_right _ (by omega)
    rw [toNat_cons, List.length_cons, Nat.pow_succ]
    omega

theorem toNat_ofNat (w n : Nat) : toNat (ofNat w n) = n % 256 ^ w := by
  induction w with
  | zero => simp [ofNat, Nat.mod_one]
  | succ w ih =>
    have h : (UInt8.ofNat (n / 256 ^ w)).toNat = n / 256 ^ w % 256 := by simp
    rw [ofNat, toNat_cons, length_ofNat, ih, h, Nat.pow_succ, Nat.mod_mul, Nat.mul_comm, Nat.add_comm]

theorem ofNat_mod (w n : Nat) : ofNat w (n % 256 ^ w) = ofNat w n := by
  suffices h : ∀ v n k, ofNat v (n % (256 ^ v * k)) = ofNat v n by simpa using h w n 1
  intro v
  induction v with
  | zero => intros; rfl
  | succ v ih =>
    intro n k
    have h1 : 256 ^ (v + 1) * k = 256 ^ v * (256 * k) := by rw [Nat.pow_succ, Nat.mul_assoc]
    have h2 : n % (256 ^ v * (256 * k)) / 256 ^ v = n / 256 ^ v % (256 * k) := Nat.mod_mul_right_div_self ..
    have h3 : UInt8.ofNat (n / 256 ^ v % (256 * k)) = UInt8.ofNat (n / 256 ^ v) := by
      apply UInt8.toNat_inj.1
      rw [UInt8.toNat_ofNat', UInt8.toNat_ofNat', Nat.mod_mul_right_mod]
    rw [ofNat, ofNat, h1, h2, ih, h3]

theorem ofNat_toNat (data : Bytes) : ofNat data.length (toNat data) = data := by
  induction data with
  | nil => rfl
  | cons b rest ih =>
    have hlt := toNat_lt rest
    have hb : (b.toNat * 256 ^ rest.length + toNat rest) / 256 ^ rest.length = b.toNat := by
      rw [Nat.mul_comm, Nat.mul_add_div (Nat.pos_of_ne_zero (by simp)), Nat.div_eq_of_lt hlt, Nat.add_zero]
    have hr : (b.toNat * 256 ^ rest.length + toNat rest) % 256 ^ rest.length = toNat rest := by
      rw [Nat.mul_comm, Nat.mul_add_mod, Nat.mod_eq_of_lt hlt]
    rw [List.length_cons, ofNat, toNat_cons, hb, ← ofNat_mod, hr, ih]
    simp

/-! ## Fields -/

/-- The byte at an offset, zero past the end. -/
def byteAt (data : Bytes) (offset : Nat) : UInt8 := data.getD offset 0

/-- At most `size` bytes from an offset on. -/
def slice (data : Bytes) (offset size : Nat) : Bytes := (data.drop offset).take size

/-- The 16-bit number at an offset. -/
def wordAt (data : Bytes) (offset : Nat) : UInt16 := UInt16.ofNat (toNat (slice data offset 2))

/-- The two bytes of a 16-bit number. -/
def ofWord (w : UInt16) : Bytes := ofNat 2 w.toNat

/-- Overwrites the 16-bit number at an offset. -/
def setWord (data : Bytes) (offset : Nat) (w : UInt16) : Bytes :=
  data.take offset ++ ofWord w ++ data.drop (offset + 2)

@[simp] theorem length_ofWord (w : UInt16) : (ofWord w).length = 2 := length_ofNat ..

theorem length_setWord {data : Bytes} {offset : Nat} (h : offset + 2 ≤ data.length) (w : UInt16) :
    (setWord data offset w).length = data.length := by
  simp [setWord]
  omega

/-- Reading back the field that was written. -/
theorem wordAt_setWord {data : Bytes} {offset : Nat} (h : offset + 2 ≤ data.length) (w : UInt16) :
    wordAt (setWord data offset w) offset = w := by
  have h0 : (data.take offset).length = offset := by simp; omega
  have h1 : slice (setWord data offset w) offset 2 = ofWord w := by
    unfold slice setWord
    rw [List.append_assoc, List.drop_append_of_le_length (by omega), List.drop_eq_nil_of_le (by omega),
      List.nil_append, List.take_append_of_le_length (by simp), List.take_of_length_le (by simp)]
  have hw : w.toNat < 65536 := w.toNat_lt
  unfold wordAt
  rw [h1, ofWord, toNat_ofNat, Nat.mod_eq_of_lt (by omega), UInt16.ofNat_toNat]

end Bytes

end Nat64
