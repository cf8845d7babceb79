import Nat64.Address.Text

/-!
# Texts between quotes

A text stands between quotes of one of two kinds, either on one line between single quotes or, as a block, between
triple ones. Double quotes allow escapes, apostrophes take everything as it is.

* `Quoted.read?`: the text after an opening quote; first its end is found, then its escapes are replaced.
* `Quoted.write`: a text in the first form that needs no escapes, or with escapes if there is no such form.
-/

namespace Nat64.Toml

/-- A space or a tab. -/
def isGap (c : Char) : Bool := c = ' ' ∨ c = '\t'

/-- A character that may stand in a text or a comment as it is: a tab, or any that is no control character. -/
def isPlain (c : Char) : Bool := c = '\t' ∨ (' ' ≤ c ∧ c ≠ '\x7f')

namespace Quoted

/-- How a text is quoted. -/
structure Form where
  quote : Char
  /-- The text may have several lines. -/
  block : Bool
deriving DecidableEq, Repr

namespace Form

/-- The forms in the order in which they are tried. -/
def all : List Form := [⟨'"', false⟩, ⟨'\'', false⟩, ⟨'"', true⟩, ⟨'\'', true⟩]

/-- Whether a backslash starts an escape. -/
def escapes (f : Form) : Bool := f.quote = '"'

/-- The number of quotes that close the text together with a first one; no more may stand in the text in a row. -/
def spare (f : Form) : Nat := if f.block then 2 else 0

/-- What the text stands between. -/
def delimiter (f : Form) : List Char := List.replicate (f.spare + 1) f.quote

end Form

/-! ## Reading -/

/-- The raw text in front of its closing quotes, and what follows these. -/
def close? (f : Form) : List Char → Option (List Char × List Char)
  | [] => none
  | c :: rest =>
    if c = '\\' ∧ f.escapes then
      match rest with
      | [] => none
      | d :: rest => (close? f rest).map fun (raw, rest) => (c :: d :: raw, rest)
    else
      let run := (rest.takeWhile (· = f.quote)).length
      if c = f.quote ∧ f.spare ≤ run then
        let kept := min (run - f.spare) f.spare
        some (List.replicate kept f.quote, rest.drop (kept + f.spare))
      else (close? f rest).map fun (raw, rest) => (c :: raw, rest)

/-- The character with a code in hexadecimal. -/
def character? (digits : List Char) : Option Char := do
  let code := Text.ofDigits 16 (← digits.mapM (Text.digit? 16))
  if code.isValidChar then some (Char.ofNat code) else none

/-- The characters that have an escape of one letter, and the letter. -/
def letters : List (Char × Char) :=
  [('\x08', 'b'), ('\t', 't'), ('\n', 'n'), ('\x0c', 'f'), ('\r', 'r'), ('"', '"'), ('\\', '\\')]

/-- The character that a letter stands for after a backslash. -/
def ofLetter? (letter : Char) : Option Char := (letters.find? (·.2 = letter)).map (·.1)

/-- Whether only gaps are left on the line. -/
def atLineEnd (cs : List Char) : Bool := (cs.dropWhile isGap).head? = some '\n'

/-- A raw text with its escapes replaced. A backslash at the end of a line takes all blanks and line ends after it
away, which is what `skipping` says. -/
def unescape? (f : Form) (skipping : Bool) : List Char → Option (List Char)
  | [] => some []
  | c :: rest =>
    if skipping ∧ (isGap c ∨ c = '\n') then unescape? f true rest
    else if c = '\\' ∧ f.escapes then
      match rest with
      | [] => none
      | 'u' :: a :: b :: c :: d :: rest => return (← character? [a, b, c, d]) :: (← unescape? f false rest)
      | 'U' :: a :: b :: c :: d :: e :: f' :: g :: h :: rest =>
        return (← character? [a, b, c, d, e, f', g, h]) :: (← unescape? f false rest)
      | d :: rest =>
        if f.block ∧ atLineEnd (d :: rest) then unescape? f true (d :: rest)
        else return (← ofLetter? d) :: (← unescape? f false rest)
    else if isPlain c ∨ (f.block ∧ c = '\n') then return c :: (← unescape? f false rest)
    else none

/-- The form that an opening quote starts, and what follows all opening quotes. -/
def openForm (quote : Char) (rest : List Char) : Form × List Char :=
  if [quote, quote].isPrefixOf rest then (⟨quote, true⟩, rest.drop 2) else (⟨quote, false⟩, rest)

/-- The text after an opening quote with its form, and what follows its closing quotes. A block whose first line is
empty starts with the second. -/
def read? (quote : Char) (rest : List Char) : Option (Form × String × List Char) := do
  let (f, rest) := openForm quote rest
  let (raw, rest) ← close? f rest
  let raw := if f.block ∧ raw.head? = some '\n' then raw.drop 1 else raw
  return (f, String.ofList (← unescape? f false raw), rest)

theorem close?_length {f : Form} {cs raw rest : List Char} (h : close? f cs = some (raw, rest)) :
    rest.length < cs.length := by
  fun_induction close? f cs generalizing raw rest with
  | case1 => cases h
  | case2 => cases h
  | case3 c _ d cs ih =>
    obtain ⟨⟨raw', rest'⟩, h', he⟩ := Option.map_eq_some_iff.1 h
    cases he
    have := ih h'
    simp only [List.length_cons]
    omega
  | case4 =>
    cases h
    simp only [List.length_drop, List.length_cons]
    omega
  | case5 =>
    rename_i ih
    obtain ⟨⟨raw', rest'⟩, h', he⟩ := Option.map_eq_some_iff.1 h
    cases he
    have := ih h'
    simp only [List.length_cons]
    omega

theorem read?_length {quote : Char} {cs rest : List Char} {f : Form} {text : String}
    (h : read? quote cs = some (f, text, rest)) : rest.length < cs.length := by
  unfold read? at h
  simp only [Option.bind_eq_bind, Option.bind_eq_some_iff, Option.pure_def, Option.some.injEq, Prod.mk.injEq] at h
  obtain ⟨⟨raw, rest'⟩, hc, _, _, _, _, rfl⟩ := h
  have hl : rest'.length < (openForm quote cs).2.length := close?_length hc
  have ho : (openForm quote cs).2.length ≤ cs.length := by
    unfold openForm
    split <;> simp
  exact Nat.lt_of_lt_of_le hl ho

/-! ## Writing -/

/-- The length of the longest run of a character. -/
def longestRun (c : Char) (cs : List Char) : Nat :=
  let step := fun (longest, here) d => if d = c then (max longest (here + 1), here + 1) else (longest, 0)
  (cs.foldl step (0, 0)).1

/-- Whether a form can hold a text without escapes; a tab counts as none, although it is written as one. -/
def fits (f : Form) (cs : List Char) : Bool :=
  cs.all (fun c => isPlain c ∨ (f.block ∧ c = '\n')) ∧ ¬ (f.escapes ∧ '\\' ∈ cs) ∧ longestRun f.quote cs ≤ f.spare

/-- The form a text is written in. -/
def Form.ofText (cs : List Char) : Form := (Form.all.find? (fits · cs)).getD ⟨'"', '\n' ∈ cs⟩

/-- The code of a character in four hexadecimal digits. -/
def code4 (c : Char) : List Char :=
  let digits := (Nat.toDigits 16 c.toNat).map Char.toUpper
  List.replicate (4 - digits.length) '0' ++ digits

/-- A text with escapes where they are needed, after a number of quotes in a row. -/
def escape (f : Form) (run : Nat) : List Char → List Char
  | [] => []
  | c :: rest =>
    if c = '"' ∧ run < f.spare then c :: escape f (run + 1) rest
    else if c = '\n' ∧ f.block then c :: escape f 0 rest
    else match letters.find? (·.1 = c) with
      | some (_, letter) => '\\' :: letter :: escape f 0 rest
      | none => (if isPlain c then [c] else ['\\', 'u'] ++ code4 c) ++ escape f 0 rest

/-- A text between quotes. A block of several lines starts on a line of its own. -/
def write (text : String) : String :=
  let cs := text.toList
  let f := Form.ofText cs
  let opening := if '\n' ∈ cs then f.delimiter ++ ['\n'] else f.delimiter
  let body := if f.escapes then escape f 0 cs else cs
  String.ofList (opening ++ body ++ f.delimiter)

end Quoted

end Nat64.Toml
