import Nat64.Bytes

/-!
# Hexadecimal dumps

Sixteen bytes a line, each line opened by the offset of its first byte in at least four digits.
-/

namespace Nat64.HexDump

/-- The number of bytes on a full line. -/
def width : Nat := 16

/-- A number in hexadecimal, with zeros in front up to a number of digits. -/
def digits (least n : Nat) : String :=
  let shown := Nat.toDigits 16 n
  String.ofList (List.replicate (least - shown.length) '0' ++ shown)

/-- The lines of bytes, the last one perhaps shorter. -/
def chunks (data : Bytes) : List Bytes :=
  if data = [] then [] else data.take width :: chunks (data.drop width)
termination_by data.length
decreasing_by
  rename_i h
  have := List.length_pos_iff.2 h
  simp [width]
  omega

/-- One line: the offset of its first byte and its bytes. -/
def line (offset : Nat) (data : Bytes) : String :=
  digits 4 offset ++ ":" ++ String.join (data.map fun b => " " ++ digits 2 b.toNat)

/-- The lines of a dump. -/
def lines (data : Bytes) : List String := (chunks data).mapIdx fun i part => line (i * width) part

/-- The dump of a buffer. -/
def render (data : Bytes) : String := "\n".intercalate (lines data)

end Nat64.HexDump
