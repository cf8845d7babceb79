import Nat64.Bytes

/-!
# The Internet checksum

Data is read as big-endian 16-bit words, added with end-around carry and complemented. Sums are natural numbers;
`fold` brings one into 16 bits.

* `carry` keeps the value modulo `65535` (`carry_mod`) and leaves zero only to zero (`carry_eq_zero_iff`).
* `wordSum` reads one buffer, `Accumulator` a stream that is cut into segments at any byte.
* `replace` swaps a word inside a finished checksum without seeing the data.
-/

namespace Nat64.Checksum

/-! ## Sums and folding -/

/-- One end-around carry: what lies above the sixteenth bit is added back below. -/
def carry (sum : Nat) : Nat := sum % 0x10000 + sum / 0x10000

/-- A sum of at most 32 bits as one 16-bit word; two carries always suffice. -/
def fold (sum : Nat) : UInt16 := UInt16.ofNat (carry (carry sum))

/-- Adds a word to a running sum, carrying as soon as the sum reaches 31 bits, so that it never leaves 32. -/
def addWord (sum word : Nat) : Nat :=
  let total := sum + word
  if 0x80000000 ≤ total then carry total else total

/-- The sum of the 16-bit words of a buffer, added to `sum`; a last odd byte is the high half of its word. -/
def wordSumFrom (sum : Nat) : Bytes → Nat
  | [] => sum
  | [last] => sum + last.toNat * 0x100
  | high :: low :: rest => wordSumFrom (addWord sum (high.toNat * 0x100 + low.toNat)) rest

/-- The sum of the 16-bit words of a buffer. -/
def wordSum (data : Bytes) : Nat := wordSumFrom 0 data

/-- The checksum of one buffer. -/
def ofBytes (data : Bytes) : UInt16 := ~~~ fold (wordSum data)

theorem carry_mod (sum : Nat) : carry sum % 65535 = sum % 65535 := by
  unfold carry
  omega

theorem carry_eq_zero_iff (sum : Nat) : carry sum = 0 ↔ sum = 0 := by
  unfold carry
  omega

theorem carry_carry_lt {sum : Nat} (h : sum < 0x100000000) : carry (carry sum) < 0x10000 := by
  unfold carry
  omega

theorem toNat_fold {sum : Nat} (h : sum < 0x100000000) : (fold sum).toNat = carry (carry sum) := by
  have := carry_carry_lt h
  simp only [fold, UInt16.toNat_ofNat']
  omega

/-! ## Streams -/

/-- A running sum over a stream of bytes that arrives in segments. -/
structure Accumulator where
  sum : Nat := 0
  /-- Whether the last byte is the high half of a word whose low half has not arrived. -/
  odd : Bool := false
deriving DecidableEq, Repr

namespace Accumulator

/-- Adds a sum computed elsewhere; it belongs on a word boundary. -/
def addSum (acc : Accumulator) (sum : Nat) : Accumulator :=
  { acc with sum := (fold acc.sum).toNat + (fold sum).toNat }

/-- Adds a segment that starts on a word boundary, or nothing. -/
def addWords (acc : Accumulator) (data : Bytes) : Accumulator where
  sum := (fold acc.sum).toNat + wordSum data
  odd := acc.odd || data.length % 2 == 1

/-- Adds the next segment of the stream; its first byte completes a word that is still open. -/
def addBytes (acc : Accumulator) (data : Bytes) : Accumulator :=
  match acc.odd, data with
  | true, low :: rest => addWords { sum := acc.sum + low.toNat, odd := false } rest
  | _, _ => acc.addWords data

/-- Adds several segments in order. -/
def addSegments (acc : Accumulator) (segments : List Bytes) : Accumulator := segments.foldl addBytes acc

/-- The folded sum. -/
def total (acc : Accumulator) : UInt16 := fold acc.sum

/-- The checksum of the stream: the complement of its folded sum. -/
def checksum (acc : Accumulator) : UInt16 := ~~~ acc.total

end Accumulator

/-- The checksum of segments that together are one message. -/
def ofSegments (segments : List Bytes) : UInt16 := (Accumulator.addSegments {} segments).checksum

/-! ## Incremental change -/

/-- The checksum after the word `old` of the data has become `new`; either may also be the folded sum of a region. -/
def replace (checksum old new : UInt16) : UInt16 :=
  ~~~ fold ((~~~ checksum).toNat + (~~~ old).toNat + new.toNat)

end Nat64.Checksum
