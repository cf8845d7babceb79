import Nat64.Toml.Quoted

/-!
# Tokens of a configuration text

Gaps and comments separate tokens and leave none behind. A line end is a token, because it ends an entry.

* `Token.ofChars?`: the tokens of a text, or nothing if some character belongs to no token.
-/

namespace Nat64.Toml

/-- The pieces of a configuration text. -/
inductive Token where
  /-- A bare key, a number or a truth value. -/
  | word (cs : List Char)
  | text (form : Quoted.Form) (s : String)
  /-- The sign between key and value. -/
  | equals
  /-- The sign between two elements. -/
  | comma
  /-- The start of an array. -/
  | opening
  /-- The end of an array. -/
  | closing
  /-- The end of a line. -/
  | newline
deriving DecidableEq, Repr

/-- A character of a bare key. -/
def isKeyChar (c : Char) : Bool := c.isAlphanum ∨ c = '-' ∨ c = '_'

/-- A character of a word, which may also be a number with a sign. -/
def isWordChar (c : Char) : Bool := isKeyChar c ∨ c = '+'

/-- The token of a character that is one by itself. -/
def Token.ofChar? : Char → Option Token
  | '=' => some .equals
  | ',' => some .comma
  | '[' => some .opening
  | ']' => some .closing
  | '\n' => some .newline
  | _ => none

theorem length_dropWhile_le (p : Char → Bool) (cs : List Char) : (cs.dropWhile p).length ≤ cs.length :=
  (List.dropWhile_suffix p).length_le

/-- The tokens of a text whose lines end in line feeds. -/
def Token.ofChars? : List Char → Option (List Token)
  | [] => some []
  | c :: rest =>
    if isGap c then ofChars? rest
    else if c = '#' then ofChars? (rest.dropWhile isPlain)
    else if isWordChar c then
      return .word (c :: rest.takeWhile isWordChar) :: (← ofChars? (rest.dropWhile isWordChar))
    else if c = '"' ∨ c = '\'' then
      match h : Quoted.read? c rest with
      | none => none
      | some (form, s, rest') =>
        have := Quoted.read?_length h
        return .text form s :: (← ofChars? rest')
    else return (← ofChar? c) :: (← ofChars? rest)
termination_by cs => cs.length
decreasing_by
  all_goals simp only [List.length_cons]
  · omega
  · have := length_dropWhile_le isPlain rest
    omega
  · have := length_dropWhile_le isWordChar rest
    omega
  · omega
  · omega

end Nat64.Toml
