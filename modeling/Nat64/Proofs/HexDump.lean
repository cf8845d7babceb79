import Nat64.Address.Text
import Nat64.HexDump
import Nat64.Proofs.Bytes

/-!
# Reading a dump

A dump is read line by line: behind the colon, what stands between blanks are the bytes, two digits each. So nothing is
lost in a dump, whatever the size of the buffer, and the offsets in front are numbers with at least four digits.

* `Numeral`: how numbers are written; `numeral_digits`: that this is how they are written here.
* `textLines_render`: the lines of the text are the lines that were written.
* `groups_line`, `getElem?_chunks`: what stands on a line.
* `decode?_render`: a dump read back.
-/

namespace Nat64.HexDump

-- Powers of natural numbers mean the same here whatever else is in scope.
attribute [local instance (2000)] instPowNat

/-! ## Numbers -/

/-- The digits of a dump. -/
def alphabet : List Char := ['0', '1', '2', '3', '4', '5', '6', '7', '8', '9', 'a', 'b', 'c', 'd', 'e', 'f']

/-- The value of a digit. -/
def digit? (c : Char) : Option Nat := alphabet.idxOf? c

/-- The number with the given digits. -/
def number? (cs : List Char) : Option Nat := (cs.mapM digit?).map (Text.ofDigits 16)

/-- A number is written with at least so many digits, and with zeros in front only to reach them. -/
structure Numeral (least n : Nat) (cs : List Char) : Prop where
  value : number? cs = some n
  least_le : least ≤ cs.length
  head_ne : least < cs.length → cs.head? ≠ some '0'

section Numbers

variable {cs : List Char} {c : Char} {d n : Nat}

theorem digit?_digitChar : ∀ d < 16, digit? (Nat.digitChar d) = some d := by decide

theorem number?_concat (h : number? cs = some n) (hc : digit? c = some d) :
    number? (cs ++ [c]) = some (16 * n + d) := by
  obtain ⟨ds, hds, rfl⟩ := Option.map_eq_some_iff.1 h
  simp [number?, List.mapM_append, hds, hc, Text.ofDigits]

theorem number?_zeros (k : Nat) (cs : List Char) : number? (List.replicate k '0' ++ cs) = number? cs := by
  induction k with
  | zero => rfl
  | succ k ih =>
    have hzero : digit? '0' = some 0 := digit?_digitChar 0 (by decide)
    have hskip : ∀ cs, number? ('0' :: cs) = number? cs := by
      intro cs
      cases hcs : cs.mapM digit? <;> simp [number?, hzero, hcs, Text.ofDigits]
    rw [List.replicate_succ, List.cons_append, hskip, ih]

theorem number?_toDigits (n : Nat) : number? (Nat.toDigits 16 n) = some n := by
  induction n using Nat.strongRecOn with
  | ind n ih =>
    rw [Nat.toDigits_eq_if (by decide)]
    split
    · rename_i hsmall
      have hnothing : number? [] = some 0 := rfl
      simpa using number?_concat hnothing (digit?_digitChar n hsmall)
    · rename_i hlarge
      have hlast := digit?_digitChar (n % 16) (Nat.mod_lt n (by decide))
      rw [number?_concat (ih (n / 16) (by omega)) hlast]
      congr 1
      omega

/-- A number does not start with a zero. -/
theorem head?_toDigits (h : n ≠ 0) : (Nat.toDigits 16 n).head? ≠ some '0' := by
  induction n using Nat.strongRecOn with
  | ind n ih =>
    rw [Nat.toDigits_eq_if (by decide)]
    split
    · rename_i hsmall
      intro hhead
      have hzero : Nat.digitChar n = '0' := by simpa using hhead
      have hdigit := digit?_digitChar n hsmall
      rw [hzero] at hdigit
      exact h (Option.some.inj hdigit).symm
    · rename_i hlarge
      have hfront := ih (n / 16) (by omega) (by omega)
      cases hcons : Nat.toDigits 16 (n / 16) with
      | nil => exact absurd hcons Nat.toDigits_ne_nil
      | cons first rest =>
        rw [hcons] at hfront
        exact hfront

theorem toList_digits (least n : Nat) : (digits least n).toList
    = List.replicate (least - (Nat.toDigits 16 n).length) '0' ++ Nat.toDigits 16 n := by
  simp [digits]

theorem numeral_digits {least : Nat} (h : 0 < least) (n : Nat) : Numeral least n (digits least n).toList where
  value := by rw [toList_digits, number?_zeros, number?_toDigits]
  least_le := by
    rw [toList_digits, List.length_append, List.length_replicate]
    omega
  head_ne := by
    intro hlong
    rw [toList_digits] at hlong ⊢
    rw [List.length_append, List.length_replicate] at hlong
    have hnone : least - (Nat.toDigits 16 n).length = 0 := by omega
    rw [hnone, List.replicate_zero, List.nil_append]
    apply head?_toDigits
    rintro rfl
    rw [Nat.toDigits_zero, List.length_singleton] at hlong
    omega

theorem length_digits {least : Nat} (h : 0 < least) (hn : n < 16 ^ least) : (digits least n).toList.length = least := by
  have hle := (Nat.length_toDigits_le_iff (b := 16) (by decide) h).2 hn
  rw [toList_digits, List.length_append, List.length_replicate]
  omega

theorem mem_alphabet (h : number? cs = some n) (hc : c ∈ cs) : c ∈ alphabet := by
  obtain ⟨ds, hds, -⟩ := Option.map_eq_some_iff.1 h
  clear h
  induction cs generalizing ds with
  | nil => cases hc
  | cons first cs ih =>
    rw [List.mapM_cons] at hds
    obtain ⟨d, hd, hrest⟩ := Option.bind_eq_some_iff.1 hds
    obtain ⟨ds', hds', -⟩ := Option.bind_eq_some_iff.1 hrest
    rcases List.mem_cons.1 hc with rfl | hc
    · apply Decidable.byContradiction
      intro hnot
      rw [digit?, List.idxOf?_eq_none_iff.2 hnot] at hd
      cases hd
    · exact ih hc ds' hds'

/-- Signs that are no digits do not stand in a number. -/
theorem not_mem_digits {least : Nat} (h : 0 < least) (n : Nat) (hc : c ∉ alphabet) : c ∉ (digits least n).toList :=
  fun hmem => hc (mem_alphabet (numeral_digits h n).value hmem)

end Numbers

/-! ## Lines -/

/-- The byte with the given two digits. -/
def byte? (cs : List Char) : Option UInt8 := if cs.length = 2 then (number? cs).map UInt8.ofNat else none

/-- What stands between the blanks of a line behind its colon. -/
def groups (line : String) : List (List Char) := ((line.toList.dropWhile (· ≠ ':')).splitOn ' ').drop 1

/-- The lines of a text, which end at newlines; an empty text has none. -/
def textLines (text : String) : List String :=
  if text = "" then [] else (text.toList.splitOn '\n').map String.ofList

/-- The bytes that a dump shows. -/
def decode? (text : String) : Option Bytes := ((textLines text).flatMap groups).mapM byte?

section Lines

variable {data part : Bytes} {i : Nat}

/-- The digits of a byte in a dump. -/
def pair (b : UInt8) : List Char := (digits 2 b.toNat).toList

theorem byte?_pair (b : UInt8) : byte? (pair b) = some b := by
  have hlength : (pair b).length = 2 := length_digits (by decide) b.toNat_lt
  have hvalue : number? (pair b) = some b.toNat := (numeral_digits (by decide) b.toNat).value
  rw [byte?, if_pos hlength, hvalue, Option.map_some, UInt8.ofNat_toNat]

theorem toList_line (offset : Nat) (part : Bytes) : (line offset part).toList
    = (digits 4 offset).toList ++ ':' :: (part.map pair).flatMap (' ' :: ·) := by
  simp [line, pair, List.flatMap_map]

/-- Pieces with a mark in front of each are what stands between the marks. -/
theorem splitOn_flatMap {mark : Char} {front : List Char} {pieces : List (List Char)} (hfront : mark ∉ front)
    (hpieces : ∀ piece ∈ pieces, mark ∉ piece) :
    (front ++ pieces.flatMap (mark :: ·)).splitOn mark = front :: pieces := by
  induction pieces generalizing front with
  | nil => rw [List.flatMap_nil, List.append_nil, List.splitOn_eq_singleton hfront]
  | cons piece pieces ih =>
    obtain ⟨hpiece, hrest⟩ := List.forall_mem_cons.1 hpieces
    rw [List.flatMap_cons, List.cons_append, List.splitOn_append_cons_self_of_not_mem hfront, ih hpiece hrest]

theorem not_mem_pair {c : Char} (hc : c ∉ alphabet) (part : Bytes) : ∀ piece ∈ part.map pair, c ∉ piece := by
  intro piece hpiece
  obtain ⟨b, -, rfl⟩ := List.mem_map.1 hpiece
  exact not_mem_digits (by decide) b.toNat hc

theorem groups_line (offset : Nat) (part : Bytes) : groups (line offset part) = part.map pair := by
  have hnumber : ∀ c ∈ (digits 4 offset).toList, decide (c ≠ ':') = true := by
    intro c hc
    have hcolon : ':' ∉ (digits 4 offset).toList := not_mem_digits (by decide) offset (by decide)
    simp only [decide_eq_true_eq]
    rintro rfl
    exact hcolon hc
  have hfront : ' ' ∉ [':'] := by decide
  have hsplit := splitOn_flatMap hfront (not_mem_pair (by decide) part)
  rw [groups, toList_line, List.dropWhile_append_of_pos hnumber, List.dropWhile_cons_of_neg (by decide)]
  rw [List.singleton_append] at hsplit
  rw [hsplit, List.drop_one, List.tail_cons]

theorem newline_not_mem_line (offset : Nat) (part : Bytes) : '\n' ∉ (line offset part).toList := by
  have hnumber : '\n' ∉ (digits 4 offset).toList := not_mem_digits (by decide) offset (by decide)
  have hpairs := not_mem_pair (c := '\n') (by decide) part
  rw [toList_line]
  simp only [List.mem_append, List.mem_cons, List.mem_flatMap, not_or, not_exists, not_and]
  exact ⟨hnumber, by decide, fun piece hpiece => ⟨by decide, hpairs piece hpiece⟩⟩

end Lines

/-! ## Chunks -/

section Chunks

variable {data part : Bytes} {i : Nat}

theorem flatten_chunks (data : Bytes) : (chunks data).flatten = data := by
  fun_induction chunks data with
  | case1 => rfl
  | case2 data hdata ih => rw [List.flatten_cons, ih, List.take_append_drop]

theorem length_chunks (data : Bytes) : (chunks data).length = (data.length + 15) / 16 := by
  fun_induction chunks data with
  | case1 => rfl
  | case2 data hdata ih =>
    have hpos := List.length_pos_iff.2 hdata
    rw [List.length_cons, ih, List.length_drop, width]
    omega

/-- The bytes on a line. -/
theorem getElem?_chunks (data : Bytes) (i : Nat) :
    (chunks data)[i]? = if 16 * i < data.length then some (Bytes.slice data (16 * i) 16) else none := by
  fun_induction chunks data generalizing i with
  | case1 => simp
  | case2 data hdata ih =>
    have hpos := List.length_pos_iff.2 hdata
    cases i with
    | zero => simp [Bytes.slice, width, hpos]
    | succ i =>
      rw [List.getElem?_cons_succ, ih, List.length_drop, width, Bytes.slice_drop, Nat.mul_succ, Nat.add_comm 16]
      simp only [Nat.lt_sub_iff_add_lt]

end Chunks

/-! ## The dump read back -/

section Render

variable {data : Bytes}

theorem lines_eq_nil : lines data = [] ↔ data = [] := by
  rw [lines, List.mapIdx_eq_nil_iff]
  fun_induction chunks data with
  | case1 => simp
  | case2 data hdata ih => simp [hdata]

/-- The text has the lines that were written. -/
theorem textLines_render (data : Bytes) : textLines (render data) = lines data := by
  by_cases hdata : data = []
  · subst hdata
    decide +kernel
  · have hlines : (lines data).map String.toList ≠ [] := by
      intro hnone
      exact hdata (lines_eq_nil.1 (List.map_eq_nil_iff.1 hnone))
    have htext : (render data).toList = ['\n'].intercalate ((lines data).map String.toList) := by
      rw [render, String.toList_intercalate]
      rfl
    have hnewline : ∀ l ∈ (lines data).map String.toList, '\n' ∉ l := by
      intro l hl
      obtain ⟨s, hs, rfl⟩ := List.mem_map.1 hl
      obtain ⟨i, -, rfl⟩ := List.mem_mapIdx.1 hs
      exact newline_not_mem_line _ _
    have hsplit := List.splitOn_intercalate '\n' hnewline hlines
    have hne : render data ≠ "" := by
      -- the only line of an empty text would have no colon
      intro hempty
      have hblank : [] ∈ (lines data).map String.toList := by
        rw [← hsplit, ← htext, hempty]
        exact List.mem_singleton_self _
      obtain ⟨s, hs, hnil⟩ := List.mem_map.1 hblank
      obtain ⟨i, hi, rfl⟩ := List.mem_mapIdx.1 hs
      simp [toList_line] at hnil
    rw [textLines, if_neg hne, htext, hsplit, List.map_map]
    simp

theorem flatMap_groups_lines (data : Bytes) : (lines data).flatMap groups = data.map pair := by
  have hlines : (lines data).map groups = (chunks data).map (·.map pair) := by
    apply List.ext_getElem?
    intro i
    rw [List.getElem?_map, lines, List.getElem?_mapIdx, List.getElem?_map, Option.map_map]
    have hpart : groups ∘ (fun part => line (i * width) part) = List.map pair := by
      funext part
      rw [Function.comp_apply, groups_line]
    rw [hpart]
  rw [List.flatMap_def, hlines, ← List.map_flatten, flatten_chunks]

theorem mapM_byte?_map_pair (data : Bytes) : (data.map pair).mapM byte? = some data := by
  induction data with
  | nil => rfl
  | cons b data ih => simp [byte?_pair, ih]

theorem decode?_render (data : Bytes) : decode? (render data) = some data := by
  rw [decode?, textLines_render, flatMap_groups_lines, mapM_byte?_map_pair]

/-- What stands on a line. -/
theorem exists_of_getElem?_lines {i : Nat} {text : String} (h : (lines data)[i]? = some text) :
    16 * i < data.length ∧ text = line (16 * i) (Bytes.slice data (16 * i) 16) := by
  rw [lines, List.getElem?_mapIdx, getElem?_chunks] at h
  split at h
  · rename_i hlt
    rw [Option.map_some, Option.some.injEq, width, Nat.mul_comm] at h
    exact ⟨hlt, h.symm⟩
  · cases h

/-- A dump has a line for every sixteen bytes and one for those that are left. Each line starts with its offset and
shows its bytes by two digits each, sixteen on every line but the last. The bytes of all lines are the buffer, so that
no other buffer has this dump. -/
theorem dump_reads_back :
    (∀ data : Bytes,
      (textLines (render data)).length = (data.length + 15) / 16 ∧
      (∀ i text, (textLines (render data))[i]? = some text →
        (∃ number, Numeral 4 (16 * i) number ∧ text.toList = number ++ ':' :: (groups text).flatMap (' ' :: ·)) ∧
        (groups text).mapM byte? = some (Bytes.slice data (16 * i) 16) ∧
        (i + 1 < (textLines (render data)).length → (groups text).length = 16)) ∧
      decode? (render data) = some data) ∧
    Function.Injective render := by
  refine ⟨fun data => ?_, fun data other h => ?_⟩
  · have hlength : (textLines (render data)).length = (data.length + 15) / 16 := by
      rw [textLines_render, lines, List.length_mapIdx, length_chunks]
    refine ⟨hlength, fun i text htext => ?_, decode?_render data⟩
    rw [textLines_render] at htext
    obtain ⟨hlt, rfl⟩ := exists_of_getElem?_lines htext
    rw [groups_line]
    refine ⟨⟨_, numeral_digits (by decide) _, toList_line _ _⟩, mapM_byte?_map_pair _, fun hfull => ?_⟩
    rw [hlength] at hfull
    rw [List.length_map, Bytes.length_slice (by omega)]
  · have hback := decode?_render data
    rw [h, decode?_render] at hback
    exact (Option.some.inj hback).symm

/-- Eighteen bytes, on a full line and on one with the other two. -/
def sample : Bytes := [0, 1, 2, 3, 4, 5, 6, 7, 8, 9, 10, 11, 12, 13, 14, 15, 16, 17]

theorem dump_reads_back_sample :
    let text := "0000: 00 01 02 03 04 05 06 07 08 09 0a 0b 0c 0d 0e 0f"
    (textLines (render sample))[0]? = some text ∧ 0 + 1 < (textLines (render sample)).length ∧
      (groups text).mapM byte? = some (Bytes.slice sample 0 16) ∧ (groups text).length = 16 := by
  intro text
  obtain ⟨hlength, hlines, -⟩ := dump_reads_back.1 sample
  have hfirst : (textLines (render sample))[0]? = some text := by
    rw [textLines_render, lines, List.getElem?_mapIdx, getElem?_chunks]
    decide +kernel
  have htwo : 0 + 1 < (textLines (render sample)).length := by
    rw [hlength]
    decide
  obtain ⟨-, hbytes, hfull⟩ := hlines 0 text hfirst
  exact ⟨hfirst, htwo, hbytes, hfull htwo⟩

end Render

end Nat64.HexDump
