/-!
# Ranges of characters

A character class given by a table is a list of inclusive ranges of code points.  The tables of
this library list the ranges in ascending order, but nothing depends on that: membership is asked
of every range.
-/

set_option autoImplicit false

namespace Codebook.Text

/-- A set of characters as inclusive ranges of code points. -/
abbrev Ranges := List (Nat × Nat)

/-- Whether one of the ranges holds the character. -/
def Ranges.contains (r : Ranges) (c : Char) : Bool :=
  r.any fun p => p.1 ≤ c.toNat && c.toNat ≤ p.2

theorem Ranges.contains_iff (r : Ranges) (c : Char) :
    r.contains c = true ↔ ∃ p ∈ r, p.1 ≤ c.toNat ∧ c.toNat ≤ p.2 := by
  simp [Ranges.contains]

end Codebook.Text
