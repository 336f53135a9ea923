/-!
# Hexadecimal numbers

Hexadecimal digits, in either letter case, and the numbers that they give.
-/

set_option autoImplicit false

namespace Codebook.Text

/-- The value of a hexadecimal digit. -/
def hexDigit? (c : Char) : Option Nat :=
  if c.isDigit then some (c.toNat - '0'.toNat)
  else if 'a' ≤ c ∧ c ≤ 'f' then some (c.toNat - 'a'.toNat + 10)
  else if 'A' ≤ c ∧ c ≤ 'F' then some (c.toNat - 'A'.toNat + 10)
  else none

/-- The number that hexadecimal digits give after another number. -/
def hexFrom? (n : Nat) : List Char → Option Nat
  | [] => some n
  | c :: cs =>
    match hexDigit? c with
    | some d => hexFrom? (n * 16 + d) cs
    | none => none

end Codebook.Text
