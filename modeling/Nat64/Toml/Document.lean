import Nat64.Toml.Integer
import Nat64.Toml.Token

/-!
# Configuration texts

A document gives values to keys, one entry a line, in the part of TOML that needs no tables: texts, whole numbers,
truth values, and arrays of these.

* `Document.ofString?`: the entries of a text in order; nothing if it is not such a document or names a key twice.
* `Document.render`: the text of a document; an array of several elements takes a line for each.
-/

namespace Nat64.Toml

/-- A single value. -/
inductive Scalar where
  | text (s : String)
  | integer (n : Int)
  | boolean (b : Bool)
deriving DecidableEq, Repr

/-- What a key may be set to. -/
inductive Value where
  | scalar (s : Scalar)
  | array (items : List Scalar)
deriving DecidableEq, Repr

/-- The entries of a document, in order. -/
abbrev Document := List (String × Value)

/-! ## Reading -/

/-- The value that a token stands for. -/
def Scalar.ofToken? : Token → Option Scalar
  | .text _ s => some (.text s)
  | .word cs =>
    if cs = "true".toList then some (.boolean true)
    else if cs = "false".toList then some (.boolean false)
    else (integer? cs).map .integer
  | _ => none

/-- The key that a token stands for; it has to stay on its line. -/
def keyOfToken? : Token → Option String
  | .text form s => if form.block then none else some s
  | .word cs => if cs.all isKeyChar then some (String.ofList cs) else none
  | _ => none

/-- The elements of an array after its opening bracket; the last one may be followed by a comma. -/
def elements? : List Token → Option (List Scalar)
  | [.closing] => some []
  | [t, .closing] => return [← Scalar.ofToken? t]
  | t :: .comma :: rest => return (← Scalar.ofToken? t) :: (← elements? rest)
  | _ => none

/-- One entry. -/
def entry? : List Token → Option (String × Value)
  | key :: .equals :: .opening :: rest => return (← keyOfToken? key, .array (← elements? rest))
  | [key, .equals, t] => return (← keyOfToken? key, .scalar (← Scalar.ofToken? t))
  | _ => none

/-- The lines of a document; the line ends inside an array end no line. -/
def lines (inside : Bool) : List Token → List (List Token)
  | [] => [[]]
  | .newline :: rest => if inside then lines true rest else [] :: lines false rest
  | t :: rest =>
    let inside := t = .opening ∨ (inside ∧ t ≠ .closing)
    match lines inside rest with
    | [] => [[t]]
    | line :: others => (t :: line) :: others

/-- A text with a line feed alone at the end of each line. -/
def unifyLineEnds : List Char → List Char
  | '\r' :: '\n' :: rest => '\n' :: unifyLineEnds rest
  | c :: rest => c :: unifyLineEnds rest
  | [] => []

/-- The mark that may open a text in Unicode. -/
def byteOrderMark : Char := '\ufeff'

/-- The document with the given text. -/
def Document.ofString? (s : String) : Option Document := do
  let cs := if s.toList.head? = some byteOrderMark then s.toList.drop 1 else s.toList
  let tokens ← Token.ofChars? (unifyLineEnds cs)
  let entries ← ((lines false tokens).filter (· ≠ [])).mapM entry?
  if (entries.map (·.1)).Nodup then some entries else none

/-! ## Writing -/

instance : ToString Scalar where
  toString
    | .text s => Quoted.write s
    | .integer n => toString n
    | .boolean true => "true"
    | .boolean false => "false"

instance : ToString Value where
  toString
    | .scalar s => toString s
    | .array [] => "[]"
    | .array [item] => "[" ++ toString item ++ "]"
    | .array items => "[\n" ++ String.join (items.map fun item => "    " ++ toString item ++ ",\n") ++ "]"

/-- The text of a document whose keys are bare. -/
def Document.render (doc : Document) : String :=
  String.join (doc.map fun (key, value) => key ++ " = " ++ toString value ++ "\n")

end Nat64.Toml
