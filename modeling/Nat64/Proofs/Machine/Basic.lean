import Nat64.Proofs.Bytes
import Nat64.Proofs.Forwarding.Steps

/-!
# A machine with bounds

The definitions of this library count in natural numbers, read zeros past the end of a buffer and take as much of a
slice as there is. A machine has integers of a width, traps where an index or a slice leaves its buffer, where a sum
or a difference leaves its width, where a cast would lose bits and where an assertion fails. The modules next to this
one write forwarding for such a machine, operation by operation, and prove that it never traps and returns what the
definitions return.

* `Machine.Run`: a result or a trap; each operation has a lemma that says when it does not trap.
* `Machine.Checked`, `Machine.StepM`: the same under an error, and under the leases as well.
* `Machine.Agrees`, `Machine.Follows`: the machine does not trap and returns what a definition returns.
-/

namespace Nat64.Machine

/-- Why the machine stops. -/
inductive Trap where
  /-- An index outside its buffer. -/
  | index
  /-- A slice outside its buffer, or the wrong number of bytes written to one. -/
  | range
  | overflow
  | underflow
  /-- A cast that would drop bits. -/
  | lossy
  /-- An assertion that does not hold. -/
  | assertion
  /-- A quoted datagram that is opened for what it quotes. -/
  | nesting
deriving DecidableEq, Repr

/-- A computation that may trap. -/
abbrev Run := Except Trap

/-- A computation that may trap, or end with an error. -/
abbrev Checked (ε : Type) := ExceptT ε Run

/-- A step of forwarding that may trap. -/
abbrev StepM := ExceptT Refusal (StateT LeaseTable Run)

instance : MonadLift (Checked Fault) (Checked Refusal) where
  monadLift x := ExceptT.mk (x.run >>= fun r => pure (r.mapError .fault))

instance : MonadLift (Checked Refusal) StepM where
  monadLift x := fun t => x.run >>= fun r => pure (r, t)

/-! ## Operations -/

/-- The widths of integers. -/
inductive Width where
  | w8
  | w16
  | w32
  | w64
deriving DecidableEq, Repr

/-- The number of integers of a width. -/
def Width.bound : Width → Nat
  | w8 => 0x100
  | w16 => 0x10000
  | w32 => 0x100000000
  | w64 => 0x10000000000000000

/-- The sum of two integers. -/
def add (w : Width) (m n : Nat) : Run Nat := if m + n < w.bound then .ok (m + n) else .error .overflow

/-- The product of two integers. -/
def mul (w : Width) (m n : Nat) : Run Nat := if m * n < w.bound then .ok (m * n) else .error .overflow

/-- The difference of two integers. -/
def sub (m n : Nat) : Run Nat := if n ≤ m then .ok (m - n) else .error .underflow

/-- An integer in a width that may be smaller than its own. -/
def cast (w : Width) (n : Nat) : Run Nat := if n < w.bound then .ok n else .error .lossy

/-- An integer as a 16-bit word. -/
def castWord (n : Nat) : Run UInt16 := cast .w16 n >>= fun n => pure (UInt16.ofNat n)

/-- Goes on if a condition holds. -/
def assert (c : Prop) [Decidable c] : Run Unit := if c then .ok () else .error .assertion

/-- The byte at an index. -/
def byteAt (data : Bytes) (i : Nat) : Run UInt8 :=
  match data[i]? with
  | some b => .ok b
  | none => .error .index

/-- The word whose two bytes start at an index. -/
def wordAt (data : Bytes) (i : Nat) : Run UInt16 := do
  let high ← byteAt data i
  let low ← byteAt data (← add .w64 i 1)
  return UInt16.ofNat (high.toNat * 0x100 + low.toNat)

/-- The bytes from an index up to another. -/
def slice (data : Bytes) (first last : Nat) : Run Bytes :=
  if first ≤ last ∧ last ≤ data.length then .ok ((data.take last).drop first) else .error .range

/-- Writes the byte at an index. -/
def put (data : Bytes) (i : Nat) (b : UInt8) : Run Bytes :=
  if i < data.length then .ok (data.set i b) else .error .index

/-- Writes the bytes from an index up to another; there have to be as many new ones. -/
def write (data : Bytes) (first last : Nat) (new : Bytes) : Run Bytes :=
  if first ≤ last ∧ last ≤ data.length ∧ first + new.length = last then
    .ok (data.take first ++ new ++ data.drop last)
  else .error .range

section Operations

variable {w : Width} {m n : Nat} {data : Bytes}

theorem add_eq (h : m + n < w.bound) : add w m n = .ok (m + n) := if_pos h

theorem add_w32 (h : m + n < 0x100000000) : add .w32 m n = .ok (m + n) := add_eq h

theorem add_w64 (h : m + n < 0x10000000000000000) : add .w64 m n = .ok (m + n) := add_eq h

theorem mul_eq (h : m * n < w.bound) : mul w m n = .ok (m * n) := if_pos h

theorem mul_w64 (h : m * n < 0x10000000000000000) : mul .w64 m n = .ok (m * n) := mul_eq h

theorem sub_eq (h : n ≤ m) : sub m n = .ok (m - n) := if_pos h

theorem cast_eq (h : n < w.bound) : cast w n = .ok n := if_pos h

theorem cast_w32 (h : n < 0x100000000) : cast .w32 n = .ok n := cast_eq h

theorem castWord_eq (h : n < 0x10000) : castWord n = .ok (UInt16.ofNat n) := by
  rw [castWord, cast_eq (w := .w16) h]
  rfl

theorem assert_eq {c : Prop} [Decidable c] (h : c) : assert c = .ok () := if_pos h

theorem byteAt_eq (h : n < data.length) : byteAt data n = .ok (Bytes.byteAt data n) := by
  simp [byteAt, Bytes.byteAt, List.getD, List.getElem?_eq_getElem h]

theorem wordAt_eq (h : n + 2 ≤ data.length) (hlt : n + 1 < 0x10000000000000000) :
    wordAt data n = .ok (Bytes.wordAt data n) := by
  rw [wordAt, byteAt_eq (by omega), add_w64 hlt, Bytes.wordAt, Bytes.slice_two h]
  show (byteAt data (n + 1) >>= _) = _
  rw [byteAt_eq (by omega)]
  show Except.ok (UInt16.ofNat _) = Except.ok (UInt16.ofNat _)
  simp [Bytes.toNat_cons]

theorem slice_eq (h : m ≤ n) (hlength : n ≤ data.length) : slice data m n = .ok (Bytes.slice data m (n - m)) := by
  rw [slice, if_pos ⟨h, hlength⟩, Bytes.slice, List.drop_take]

theorem slice_front (h : n ≤ data.length) : slice data 0 n = .ok (data.take n) := slice_eq (Nat.zero_le n) h

theorem slice_back (h : n ≤ data.length) : slice data n data.length = .ok (data.drop n) := by
  rw [slice, if_pos ⟨h, Nat.le_refl _⟩, List.take_length]

theorem write_eq {new : Bytes} (h : m + new.length = n) (hlength : n ≤ data.length) :
    write data m n new = .ok (data.take m ++ new ++ data.drop n) := if_pos ⟨by omega, hlength, h⟩

/-- A word is written as `Bytes.setWord` writes it. -/
theorem write_word (h : n + 2 ≤ data.length) (word : UInt16) :
    write data n (n + 2) (Bytes.ofWord word) = .ok (Bytes.setWord data n word) :=
  write_eq (by rw [Bytes.length_ofWord]) h

end Operations

/-! ## What the definitions return -/

section Results

variable {α β ε : Type}

theorem ok_bind (a : α) (f : α → Run β) : ((.ok a : Run α) >>= f) = f a := rfl

/-- The machine does not trap and ends as the definition does. -/
def Agrees (x : Checked ε α) (r : Except ε α) : Prop := x.run = .ok r

namespace Agrees

variable {x : Checked ε α} {r : Except ε α}

theorem pure (a : α) : Agrees (Pure.pure a : Checked ε α) (.ok a) := rfl

theorem throw (e : ε) : Agrees (MonadExcept.throw e : Checked ε α) (.error e) := rfl

theorem ofExcept (r : Except ε α) : Agrees (liftM r : Checked ε α) r := rfl

theorem bind {f : α → Checked ε β} {g : α → Except ε β} (hx : Agrees x r) (h : ∀ a, r = .ok a → Agrees (f a) (g a)) :
    Agrees (x >>= f) (r >>= g) := by
  have hx : x = (.ok r : Run (Except ε α)) := hx
  subst hx
  cases r with
  | error e => rfl
  | ok a => exact h a rfl

/-- An operation that does not trap. -/
theorem run {y : Run β} {b : β} {f : β → Checked ε α} (hy : y = .ok b) (h : Agrees (f b) r) :
    Agrees ((liftM y : Checked ε β) >>= f) r := by
  subst hy
  exact h

/-- A last operation that does not trap. -/
theorem ofRun {y : Run α} {a : α} (hy : y = .ok a) : Agrees (liftM y : Checked ε α) (.ok a) := by
  subst hy
  rfl

theorem throw_bind (e : ε) (f : β → Checked ε α) : Agrees ((MonadExcept.throw e : Checked ε β) >>= f) (.error e) := rfl

theorem ite {c : Prop} [Decidable c] {y : Checked ε α} {s : Except ε α} (hx : c → Agrees x r) (hy : ¬ c → Agrees y s) :
    Agrees (if c then x else y) (if c then r else s) := by
  split
  · exact hx ‹_›
  · exact hy ‹_›

end Agrees

theorem Agrees.refusal {x : Checked Fault α} {r : Except Fault α} (h : Agrees x r) :
    Agrees (liftM x : Checked Refusal α) (liftM r : Except Refusal α) := by
  have h : x = (.ok r : Run (Except Fault α)) := h
  subst h
  cases r <;> rfl

/-- On a table the machine does not trap and does what the definition does. -/
def Follows (m : StepM α) (f : ForwardM α) (t : LeaseTable) : Prop := m t = .ok (f t)

/-- A step runs on the table that the one before leaves, unless that one ends with an error. -/
theorem bind_apply (m : StepM α) (k : α → StepM β) (t : LeaseTable) :
    (m >>= k) t = (m t >>= fun r => match r with
      | (.ok a, s) => k a s
      | (.error e, s) => .ok (.error e, s)) := by
  simp only [Bind.bind, ExceptT.bind, ExceptT.mk, StateT.bind, ExceptT.bindCont]
  congr 1
  funext (r, s)
  cases r <;> rfl

namespace Follows

variable {m : StepM α} {f : ForwardM α} {t : LeaseTable}

theorem pure (a : α) (t : LeaseTable) : Follows (Pure.pure a) (Pure.pure a) t := rfl

theorem throw (r : Refusal) (t : LeaseTable) :
    Follows (MonadExcept.throw r : StepM α) (MonadExcept.throw r : ForwardM α) t := rfl

theorem bind {k : α → StepM β} {g : α → ForwardM β} (hm : Follows m f t)
    (h : ∀ a s, f t = (.ok a, s) → Follows (k a) (g a) s) : Follows (m >>= k) (f >>= g) t := by
  rw [Follows, bind_apply, hm, ok_bind, Forwarding.bind_apply]
  rcases hr : f t with ⟨_ | a, s⟩
  · rfl
  · exact h a s hr

/-- An operation that does not trap. -/
theorem run {y : Run β} {b : β} {k : β → StepM α} (hy : y = .ok b) (h : Follows (k b) f t) :
    Follows ((liftM y : StepM β) >>= k) f t := by
  subst hy
  exact h

/-- A last operation that does not trap. -/
theorem ofRun {y : Run α} {a : α} (hy : y = .ok a) (t : LeaseTable) : Follows (liftM y) (Pure.pure a) t := by
  subst hy
  rfl

theorem checked {x : Checked Refusal α} {r : Except Refusal α} (h : Agrees x r) (t : LeaseTable) :
    Follows (liftM x : StepM α) (liftM r : ForwardM α) t := by
  have h : x = (.ok r : Run (Except Refusal α)) := h
  subst h
  rfl

theorem fault {x : Checked Fault α} {r : Except Fault α} (h : Agrees x r) (t : LeaseTable) :
    Follows (liftM x : StepM α) (liftM r : ForwardM α) t := checked h.refusal t

theorem ite {c : Prop} [Decidable c] {n : StepM α} {g : ForwardM α} (hm : c → Follows m f t)
    (hn : ¬ c → Follows n g t) : Follows (if c then m else n) (if c then f else g) t := by
  split
  · exact hm ‹_›
  · exact hn ‹_›

end Follows

end Results

end Nat64.Machine
