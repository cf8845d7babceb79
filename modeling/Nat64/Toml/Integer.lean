import Nat64.Address.Text

/-!
# Whole numbers

A number is decimal, perhaps with a sign, or has one of the bases 16, 8 and 2 and no sign. Single underscores may
stand between digits. It has to fit 64 bits.
-/

namespace Nat64.Toml

/-- Digits with single underscores between them; `started` says that a digit comes right before. -/
def groupedDigits? (base : Nat) (started : Bool) : List Char → Option (List Nat)
  | [] => if started then some [] else none
  | '_' :: rest => if started then groupedDigits? base false rest else none
  | c :: rest => return (← Text.digit? base c) :: (← groupedDigits? base true rest)

/-- A number without a sign; only a decimal one has no zeros in front. -/
def natural? (base : Nat) (cs : List Char) : Option Nat := do
  let digits ← groupedDigits? base false cs
  if base = 10 ∧ digits.head? = some 0 ∧ 1 < digits.length then none else some (Text.ofDigits base digits)

/-- The range of whole numbers. -/
def inRange (n : Int) : Bool := -0x8000000000000000 ≤ n ∧ n < 0x8000000000000000

/-- A whole number. -/
def integer? (cs : List Char) : Option Int :=
  let n : Option Int := match cs with
    | '0' :: 'x' :: rest => natural? 16 rest
    | '0' :: 'o' :: rest => natural? 8 rest
    | '0' :: 'b' :: rest => natural? 2 rest
    | '+' :: rest => natural? 10 rest
    | '-' :: rest => (natural? 10 rest).map fun n => -n
    | rest => natural? 10 rest
  n.filter inRange

end Nat64.Toml
