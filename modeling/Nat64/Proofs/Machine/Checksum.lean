import Nat64.Proofs.Checksum
import Nat64.Proofs.Machine.Basic

/-!
# Checksums on the machine

Sums have 32 bits here. Two invariants keep them there: the sum of the words of a buffer carries at 31 bits
(`Checksum.wordSumFrom_lt`), and an accumulator folds its sum before it adds the next segment
(`Checksum.Accumulator.Reads`).

* `Machine.fold_eq`: folding ends, and the last cast loses nothing.
* `Machine.addSegments_eq`: a stream cut anywhere, of any length.
* `Machine.pseudoSum4_eq`, `Machine.pseudoSum6_eq`: pseudo-headers.
* `Machine.replace_eq`, `Machine.adjustToIPv4_eq`, `Machine.adjustToIPv6?_eq`: incremental change.
-/

namespace Nat64

namespace Checksum

/-- A folded sum is not folded further. -/
theorem fold_carry {sum : Nat} (h : sum < 0x100000000) : fold (carry sum) = fold sum := by
  have hlt := carry_carry_lt h
  have hstop : carry (carry (carry sum)) = carry (carry sum) := by
    rw [carry]
    omega
  rw [fold, fold, hstop]

/-- A sum that stays within 31 bits is exact. -/
theorem wordSumFrom_eq {sum : Nat} {data : Bytes} (h : sum + exactSum data < 0x80000000) :
    wordSumFrom sum data = sum + exactSum data := by
  fun_induction wordSumFrom sum data with
  | case1 sum => rfl
  | case2 sum last => rfl
  | case3 sum high low rest ih =>
    rw [exactSum] at h ⊢
    rw [addWord_eq, if_neg (by omega)] at ih ⊢
    rw [ih (by omega), Nat.add_assoc]

theorem wordSum_eq {data : Bytes} (h : data.length ≤ 16) : wordSum data = exactSum data := by
  have hle := exactSum_le data
  rw [wordSum, wordSumFrom_eq (by omega), Nat.zero_add]

end Checksum

namespace Machine

open Checksum (Accumulator)

/-! ## Sums and folding -/

/-- Folds a sum as long as it has more than 16 bits. -/
def fold (sum : Nat) : Run UInt16 :=
  if 0x10000 ≤ sum then
    match _h : add .w32 (sum % 0x10000) (sum / 0x10000) with
    | .ok next => fold next
    | .error trap => .error trap
  else castWord sum
termination_by sum
decreasing_by
  unfold add at _h
  split at _h
  · cases _h
    omega
  · cases _h

/-- Adds a word to a running sum, carrying at 31 bits. -/
def addWord (sum word : Nat) : Run Nat := do
  let total ← add .w32 sum word
  if 0x80000000 ≤ total then add .w32 (total % 0x10000) (total / 0x10000) else return total

/-- The sum of the words of a buffer, added to `sum`. -/
def wordSumFrom (sum : Nat) : Bytes → Run Nat
  | [] => return sum
  | [last] => add .w32 sum (last.toNat * 0x100)
  | high :: low :: rest => do wordSumFrom (← addWord sum (high.toNat * 0x100 + low.toNat)) rest

/-- The sum of the words of a buffer. -/
def wordSum (data : Bytes) : Run Nat := wordSumFrom 0 data

/-- The checksum of one buffer. -/
def ofBytes (data : Bytes) : Run UInt16 := do return ~~~ (← fold (← wordSum data))

/-- The checksum of an IPv4 header. -/
def headerChecksum (header : Bytes) : Run UInt16 := do
  assert (20 ≤ header.length ∧ header.length % 4 = 0)
  ofBytes header

theorem add_halves {sum : Nat} (h : sum < 0x100000000) :
    add .w32 (sum % 0x10000) (sum / 0x10000) = .ok (Checksum.carry sum) := add_w32 (by omega)

/-- A carry leaves less, so that folding ends where two carries end. -/
theorem fold_eq {sum : Nat} (h : sum < 0x100000000) : fold sum = .ok (Checksum.fold sum) := by
  fun_induction fold sum with
  | case1 sum hlarge next hnext ih =>
    rw [add_halves h] at hnext
    cases hnext
    have hless : Checksum.carry sum < sum := by
      rw [Checksum.carry]
      omega
    rw [ih (by omega), Checksum.fold_carry h]
  | case2 sum hlarge trap htrap =>
    rw [add_halves h] at htrap
    cases htrap
  | case3 sum hsmall =>
    have hstop : Checksum.carry sum = sum := by
      rw [Checksum.carry]
      omega
    rw [castWord_eq (by omega), Checksum.fold, hstop, hstop]

theorem addWord_eq {sum word : Nat} (hsum : sum < 0x80000000) (hword : word < 0x10000) :
    addWord sum word = .ok (Checksum.addWord sum word) ∧ Checksum.addWord sum word < 0x80000000 := by
  rw [addWord, add_w32 (by omega), ok_bind, Checksum.addWord_eq, Checksum.carry]
  split
  · exact ⟨add_w32 (by omega), by omega⟩
  · exact ⟨rfl, by omega⟩

/-- The running sum is below 31 bits before every word, so that no word takes it out of 32. -/
theorem wordSumFrom_eq {sum : Nat} (h : sum < 0x80000000) (data : Bytes) :
    wordSumFrom sum data = .ok (Checksum.wordSumFrom sum data) := by
  fun_induction Checksum.wordSumFrom sum data with
  | case1 sum => rfl
  | case2 sum last =>
    have hlast := last.toNat_lt
    exact add_w32 (by omega)
  | case3 sum high low rest ih =>
    have hhigh := high.toNat_lt
    have hlow := low.toNat_lt
    have hword : high.toNat * 0x100 + low.toNat < 0x10000 := by omega
    obtain ⟨hadd, hlt⟩ := addWord_eq h hword
    rw [wordSumFrom, hadd, ok_bind, ih hlt]

theorem wordSum_eq (data : Bytes) : wordSum data = .ok (Checksum.wordSum data) := wordSumFrom_eq (by decide) data

theorem ofBytes_eq (data : Bytes) : ofBytes data = .ok (Checksum.ofBytes data) := by
  have hlt := Checksum.wordSum_lt data
  rw [ofBytes, wordSum_eq, ok_bind, fold_eq (by omega)]
  rfl

theorem headerChecksum_eq {header : Bytes} (h : 20 ≤ header.length) (hwords : header.length % 4 = 0) :
    headerChecksum header = .ok (Checksum.ofBytes header) := by
  rw [headerChecksum, assert_eq ⟨h, hwords⟩, ok_bind, ofBytes_eq]

/-! ## Streams -/

/-- Adds a sum computed elsewhere, on a word boundary. -/
def addSum (acc : Accumulator) (sum : Nat) : Run Accumulator := do
  assert (acc.odd = false)
  return { acc with sum := ← add .w32 (← fold acc.sum).toNat (← fold sum).toNat }

/-- Adds a segment that starts on a word boundary, or nothing. -/
def addWords (acc : Accumulator) (data : Bytes) : Run Accumulator := do
  return { sum := ← add .w32 (← fold acc.sum).toNat (← wordSum data), odd := acc.odd || data.length % 2 == 1 }

/-- Adds the next segment of the stream. -/
def addBytes (acc : Accumulator) (data : Bytes) : Run Accumulator :=
  match acc.odd, data with
  | true, low :: rest => do addWords { sum := ← add .w32 acc.sum low.toNat, odd := false } rest
  | _, _ => addWords acc data

/-- Adds several segments in order. -/
def addSegments (acc : Accumulator) (segments : List Bytes) : Run Accumulator := segments.foldlM addBytes acc

/-- The checksum of the stream. -/
def finish (acc : Accumulator) : Run UInt16 := do return ~~~ (← fold acc.sum)

/-- The checksum of a stream in segments, on top of a sum computed elsewhere. -/
def checksum (front : Nat) (segments : List Bytes) : Run UInt16 := do
  finish (← addSegments (← addSum {} front) segments)

section Streams

variable {acc : Accumulator} {front : Nat} {seen : Bytes}

theorem add_words (v w : UInt16) : add .w32 v.toNat w.toNat = .ok (v.toNat + w.toNat) := by
  have hv := v.toNat_lt
  have hw := w.toNat_lt
  exact add_w32 (by omega)

theorem addSum_eq (h : acc.Reads front seen) (hodd : acc.odd = false) {n : Nat} (hn : n < 0x100000000) :
    addSum acc n = .ok (acc.addSum n) := by
  have hsum := h.sum_lt
  rw [addSum, assert_eq hodd, ok_bind, fold_eq (by omega), ok_bind, fold_eq hn, ok_bind, add_words]
  rfl

theorem addWords_eq (h : acc.sum < 0x100000000) (data : Bytes) : addWords acc data = .ok (acc.addWords data) := by
  have hfold := (Checksum.fold acc.sum).toNat_lt
  have hdata := Checksum.wordSum_lt data
  rw [addWords, fold_eq h, ok_bind, wordSum_eq, ok_bind, add_w32 (by omega)]
  rfl

theorem addBytes_eq (h : acc.Reads front seen) (data : Bytes) : addBytes acc data = .ok (acc.addBytes data) := by
  obtain ⟨sum, odd⟩ := acc
  have hsum : sum < 0x80020000 := h.sum_lt
  cases odd with
  | false => exact addWords_eq (Nat.lt_trans hsum (by decide)) data
  | true =>
    cases data with
    | nil => exact addWords_eq (Nat.lt_trans hsum (by decide)) []
    | cons low rest =>
      have hlow := low.toNat_lt
      have hlt : sum + low.toNat < 0x100000000 := by omega
      show (add .w32 sum low.toNat >>= fun sum => addWords { sum, odd := false } rest) = _
      rw [add_w32 hlt, ok_bind]
      exact addWords_eq hlt rest

theorem addSegments_eq (h : acc.Reads front seen) (segments : List Bytes) :
    addSegments acc segments = .ok (acc.addSegments segments) := by
  induction segments generalizing acc seen with
  | nil => rfl
  | cons data rest ih =>
    rw [addSegments, List.foldlM_cons, addBytes_eq h data, ok_bind]
    exact ih (h.addBytes data)

theorem finish_eq (h : acc.Reads front seen) : finish acc = .ok acc.checksum := by
  have hsum := h.sum_lt
  rw [finish, fold_eq (by omega)]
  rfl

theorem checksum_eq (h : front < 0x100000000) (segments : List Bytes) :
    checksum front segments = .ok ((Accumulator.addSum {} front).addSegments segments).checksum := by
  have hreads := Accumulator.reads_addSum h
  rw [checksum, addSum_eq Accumulator.reads_nil rfl h, ok_bind, addSegments_eq hreads, ok_bind,
    finish_eq (hreads.addSegments segments)]

end Streams

/-! ## Pseudo-headers -/

/-- The words of a buffer of even size. -/
def words : Bytes → List Nat
  | high :: low :: rest => (high.toNat * 0x100 + low.toNat) :: words rest
  | _ => []

/-- The sum of the IPv4 pseudo-header. -/
def pseudoSum4 (src dst : IPv4) (protocol : UInt8) (length : UInt16) : Run Nat :=
  (words src.octets ++ (words dst.octets ++ [protocol.toNat, length.toNat])).foldlM (add .w32) 0

/-- The sum of the IPv6 pseudo-header. -/
def pseudoSum6 (src dst : IPv6) (protocol : UInt8) (length : Nat) : Run Nat :=
  (words src.octets ++ (words dst.octets ++ [length / 0x10000, length % 0x10000, protocol.toNat])).foldlM (add .w32) 0

section PseudoHeaders

theorem foldlM_words {data : Bytes} (heven : data.length % 2 = 0) {sum : Nat}
    (h : sum + Checksum.exactSum data < 0x100000000) (rest : List Nat) :
    (words data ++ rest).foldlM (add .w32) sum = rest.foldlM (add .w32) (sum + Checksum.exactSum data) := by
  fun_induction words data generalizing sum with
  | case1 high low tail ih =>
    rw [Checksum.exactSum] at h ⊢
    rw [List.length_cons, List.length_cons] at heven
    have hword : sum + (high.toNat * 0x100 + low.toNat) < 0x100000000 :=
      Nat.lt_of_le_of_lt (Nat.add_le_add_left (Nat.le_add_right _ _) sum) h
    have hadd := add_w32 hword
    rw [← Nat.add_assoc] at h
    have htail := ih (by omega) h
    rw [List.cons_append, List.foldlM_cons, hadd, ok_bind, htail, Nat.add_assoc]
  | case2 data hshort =>
    rcases data with _ | ⟨last, _ | ⟨low, tail⟩⟩
    · rw [List.nil_append, Checksum.exactSum, Nat.add_zero]
    · cases heven
    · exact absurd rfl (hshort last low tail)

theorem exactSum_octets4_lt (a : IPv4) : Checksum.exactSum a.octets < 0x20000 := by
  have h := Checksum.exactSum_le a.octets
  rw [a.length_octets] at h
  omega

theorem exactSum_octets6_lt (a : IPv6) : Checksum.exactSum a.octets < 0x80000 := by
  have h := Checksum.exactSum_le a.octets
  rw [a.length_octets] at h
  omega

theorem pseudoSum4_eq (src dst : IPv4) (protocol : UInt8) (length : UInt16) :
    pseudoSum4 src dst protocol length = .ok (Checksum.pseudoSum4 src dst protocol length.toNat) := by
  have hsrc := exactSum_octets4_lt src
  have hdst := exactSum_octets4_lt dst
  have hprotocol := protocol.toNat_lt
  have hlength := length.toNat_lt
  rw [pseudoSum4, foldlM_words (by rw [src.length_octets]) (by omega),
    foldlM_words (by rw [dst.length_octets]) (by omega), List.foldlM_cons, add_w32 (by omega), ok_bind,
    List.foldlM_cons, add_w32 (by omega), ok_bind, Checksum.pseudoSum4,
    Checksum.wordSum_eq (by rw [src.length_octets]; decide), Checksum.wordSum_eq (by rw [dst.length_octets]; decide),
    List.foldlM_nil, Nat.zero_add]
  rfl

theorem pseudoSum6_eq (src dst : IPv6) (protocol : UInt8) {length : Nat} (h : length < 0x100000000) :
    pseudoSum6 src dst protocol length = .ok (Checksum.pseudoSum6 src dst protocol length) := by
  have hsrc := exactSum_octets6_lt src
  have hdst := exactSum_octets6_lt dst
  have hprotocol := protocol.toNat_lt
  rw [pseudoSum6, foldlM_words (by rw [src.length_octets]) (by omega),
    foldlM_words (by rw [dst.length_octets]) (by omega), List.foldlM_cons, add_w32 (by omega), ok_bind,
    List.foldlM_cons, add_w32 (by omega), ok_bind, List.foldlM_cons, add_w32 (by omega), ok_bind, Checksum.pseudoSum6,
    Checksum.wordSum_eq (Nat.le_of_eq src.length_octets), Checksum.wordSum_eq (Nat.le_of_eq dst.length_octets),
    List.foldlM_nil, Nat.zero_add, ← Nat.add_assoc (Checksum.exactSum _ + Checksum.exactSum _)]
  rfl

theorem pseudoSum4_lt (src dst : IPv4) (protocol : UInt8) {length : Nat} (h : length < 0x10000) :
    Checksum.pseudoSum4 src dst protocol length < 0x100000000 := by
  have hsrc := exactSum_octets4_lt src
  have hdst := exactSum_octets4_lt dst
  have hprotocol := protocol.toNat_lt
  rw [Checksum.pseudoSum4, Checksum.wordSum_eq (by rw [src.length_octets]; decide),
    Checksum.wordSum_eq (by rw [dst.length_octets]; decide)]
  omega

theorem pseudoSum6_lt (src dst : IPv6) (protocol : UInt8) {length : Nat} (h : length < 0x100000000) :
    Checksum.pseudoSum6 src dst protocol length < 0x100000000 := by
  have hsrc := exactSum_octets6_lt src
  have hdst := exactSum_octets6_lt dst
  have hprotocol := protocol.toNat_lt
  rw [Checksum.pseudoSum6, Checksum.wordSum_eq (Nat.le_of_eq src.length_octets),
    Checksum.wordSum_eq (Nat.le_of_eq dst.length_octets)]
  omega

end PseudoHeaders

/-! ## Incremental change -/

/-- The checksum after the word `old` of the data has become `new`. -/
def replace (checksum old new : UInt16) : Run UInt16 := do
  let sum ← add .w32 (~~~ checksum).toNat (~~~ old).toNat
  return ~~~ (← fold (← add .w32 sum new.toNat))

/-- The checksum under IPv4 of a message whose checksum under IPv6 is given. -/
def adjustToIPv4 (p : Checksum.PseudoHeaders) (checksum : UInt16) : Run UInt16 :=
  if p.protocol = Transport.udp.number ∧ checksum = 0 then return 0
  else do
    let old ← fold (← pseudoSum6 p.src6 p.dst6 p.protocol p.length.toNat)
    let new ← fold (← pseudoSum4 p.src4 p.dst4 p.protocol p.length)
    return Checksum.sendable p.protocol (← replace checksum old new)

/-- The checksum under IPv6 of a message whose checksum under IPv4 is given, unless it is a UDP message without one. -/
def adjustToIPv6? (p : Checksum.PseudoHeaders) (checksum : UInt16) : Run (Option UInt16) :=
  if p.protocol = Transport.udp.number ∧ checksum = 0 then return none
  else do
    let old ← fold (← pseudoSum4 p.src4 p.dst4 p.protocol p.length)
    let new ← fold (← pseudoSum6 p.src6 p.dst6 p.protocol p.length.toNat)
    return some (Checksum.sendable p.protocol (← replace checksum old new))

theorem replace_eq (checksum old new : UInt16) :
    replace checksum old new = .ok (Checksum.replace checksum old new) := by
  have hchecksum := (~~~ checksum).toNat_lt
  have hold := (~~~ old).toNat_lt
  have hnew := new.toNat_lt
  rw [replace, add_words, ok_bind, add_w32 (by omega),
    ok_bind, fold_eq (by omega)]
  rfl

theorem fold_pseudoSum4 (src dst : IPv4) (protocol : UInt8) (length : UInt16) :
    fold (Checksum.pseudoSum4 src dst protocol length.toNat)
      = .ok (Checksum.fold (Checksum.pseudoSum4 src dst protocol length.toNat)) :=
  fold_eq (pseudoSum4_lt src dst protocol length.toNat_lt)

theorem fold_pseudoSum6 (src dst : IPv6) (protocol : UInt8) {length : Nat} (h : length < 0x100000000) :
    fold (Checksum.pseudoSum6 src dst protocol length)
      = .ok (Checksum.fold (Checksum.pseudoSum6 src dst protocol length)) :=
  fold_eq (pseudoSum6_lt src dst protocol h)

theorem adjustToIPv4_eq (p : Checksum.PseudoHeaders) (checksum : UInt16) :
    adjustToIPv4 p checksum = .ok (p.toIPv4 checksum) := by
  have hlength : p.length.toNat < 0x100000000 := Nat.lt_trans p.length.toNat_lt (by decide)
  unfold adjustToIPv4 Checksum.PseudoHeaders.toIPv4
  split
  · rfl
  · rw [pseudoSum6_eq _ _ _ hlength, ok_bind, fold_pseudoSum6 _ _ _ hlength, ok_bind, pseudoSum4_eq, ok_bind,
      fold_pseudoSum4, ok_bind, replace_eq]
    rfl

theorem adjustToIPv6?_eq (p : Checksum.PseudoHeaders) (checksum : UInt16) :
    adjustToIPv6? p checksum = .ok (p.toIPv6? checksum) := by
  have hlength : p.length.toNat < 0x100000000 := Nat.lt_trans p.length.toNat_lt (by decide)
  unfold adjustToIPv6? Checksum.PseudoHeaders.toIPv6?
  split
  · rfl
  · rw [pseudoSum4_eq, ok_bind, fold_pseudoSum4, ok_bind, pseudoSum6_eq _ _ _ hlength, ok_bind,
      fold_pseudoSum6 _ _ _ hlength, ok_bind, replace_eq]
    rfl

end Machine

end Nat64
