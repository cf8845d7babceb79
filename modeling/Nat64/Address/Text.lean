import Nat64.Address.IPv6

/-!
# Reading addresses

Readers take characters from the front of a list and return what they read with the rest, or nothing. Their two
styles differ in two points only: whether an octet may have leading zeros, and whether `::` may stand for no group.

* `IPv4.read?`, `IPv6.read?`: the front of a text.
* `IPv4.ofString?`, `IPv6.ofString?`: a whole text, in the strict style.
-/

namespace Nat64

namespace Text

/-- What a reader of addresses lets pass. -/
structure Style where
  /-- Octets may have leading zeros. -/
  leadingZeros : Bool
  /-- The elision `::` may stand for no group at all. -/
  emptyElision : Bool
deriving DecidableEq, Repr

/-- The style of an address by itself. -/
def Style.strict : Style := ⟨false, false⟩

/-- The style of an address inside a network. -/
def Style.lenient : Style := ⟨true, true⟩

/-- The value of a decimal or hexadecimal digit. -/
def digit? (base : Nat) (c : Char) : Option Nat :=
  let value :=
    if '0' ≤ c ∧ c ≤ '9' then some (c.toNat - '0'.toNat)
    else if 'a' ≤ c ∧ c ≤ 'f' then some (c.toNat - 'a'.toNat + 10)
    else if 'A' ≤ c ∧ c ≤ 'F' then some (c.toNat - 'A'.toNat + 10)
    else none
  value.filter (· < base)

/-- The digits at the front of a text, and the rest. -/
def digits (base : Nat) : List Char → List Nat × List Char
  | [] => ([], [])
  | c :: rest =>
    match digit? base c with
    | some d => let (ds, rest) := digits base rest; (d :: ds, rest)
    | none => ([], c :: rest)

/-- The number with the given digits. -/
def ofDigits (base : Nat) (ds : List Nat) : Nat := ds.foldl (fun n d => base * n + d) 0

/-- A number below `limit` in at most `width` digits. -/
def number? (base width limit : Nat) (cs : List Char) : Option (Nat × List Char) :=
  let (ds, rest) := digits base cs
  if ds.isEmpty ∨ width < ds.length ∨ limit ≤ ofDigits base ds then none
  else some (ofDigits base ds, rest)

/-- One octet in decimal. -/
def octet? (style : Style) (cs : List Char) : Option (Nat × List Char) :=
  let (ds, _) := digits 10 cs
  if ¬ style.leadingZeros ∧ 1 < ds.length ∧ ds.head? = some 0 then none else number? 10 3 256 cs

/-- The rest of a text after a character that it must start with. -/
def drop? (c : Char) : List Char → Option (List Char)
  | [] => none
  | d :: rest => if d = c then some rest else none

/-- The value of a reader that has consumed the whole text. -/
def atEnd? {α : Type} : Option (α × List Char) → Option α
  | some (a, []) => some a
  | _ => none

end Text

open Text

/-! ## IPv4 -/

namespace IPv4

/-- An address in dotted form. -/
def read? (style : Style) (cs : List Char) : Option (IPv4 × List Char) := do
  let (a, cs) ← octet? style cs
  let (b, cs) ← octet? style (← drop? '.' cs)
  let (c, cs) ← octet? style (← drop? '.' cs)
  let (d, cs) ← octet? style (← drop? '.' cs)
  return (ofNat (((a * 256 + b) * 256 + c) * 256 + d), cs)

/-- The address with the given text. -/
def ofString? (s : String) : Option IPv4 := atEnd? (read? .strict s.toList)

end IPv4

/-! ## IPv6 -/

namespace IPv6

/-- Groups between colons, as many as there are, up to `room`; an address in dotted form may fill the last two. Tells
whether it did. -/
def readGroups (style : Style) (first : Bool) : (room : Nat) → List Char → List Nat × Bool × List Char
  | 0, cs => ([], false, cs)
  | room + 1, cs =>
    match (if first then some cs else drop? ':' cs) with
    | none => ([], false, cs)
    | some body =>
      match (if 1 ≤ room then IPv4.read? style body else none) with
      | some (a, rest) => ([a.toNat / 0x10000, a.toNat % 0x10000], true, rest)
      | none =>
        match number? 16 4 0x10000 body with
        | none => ([], false, cs)
        | some (g, rest) =>
          let (gs, dotted, rest) := readGroups style false room rest
          (g :: gs, dotted, rest)

/-- An address: eight groups, or fewer around one elision. -/
def read? (style : Style) (cs : List Char) : Option (IPv6 × List Char) :=
  let (head, dotted, rest) := readGroups style true 8 cs
  if head.length = 8 then some (ofGroups head, rest)
  else if dotted then none
  else do
    let rest ← drop? ':' (← drop? ':' rest)
    let room := if style.emptyElision then 8 - head.length else 7 - head.length
    let (tail, _, rest) := readGroups style true room rest
    return (ofGroups (head ++ List.replicate (8 - head.length - tail.length) 0 ++ tail), rest)

/-- The address with the given text. -/
def ofString? (s : String) : Option IPv6 := atEnd? (read? .strict s.toList)

end IPv6

end Nat64
