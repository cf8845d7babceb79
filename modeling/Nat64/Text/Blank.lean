/-!
# Blank characters

The characters that leave no mark on paper: Unicode's property `White_Space`.
-/

namespace Nat64.Text

/-- The blank characters other than the run from `U+2000` to `U+200A`. -/
def blanks : List Char :=
  ['\t', '\n', '\x0b', '\x0c', '\r', ' ', '\u0085', '\u00a0', '\u1680', '\u2028', '\u2029', '\u202f', '\u205f',
    '\u3000']

/-- Whether a character is blank. -/
def isBlank (c : Char) : Bool := blanks.contains c || ('\u2000' ≤ c && c ≤ '\u200a')

/-- A text without the blanks at its ends. -/
def trim (s : String) : String :=
  let front := s.toList.dropWhile isBlank
  String.ofList (front.reverse.dropWhile isBlank).reverse

end Nat64.Text
