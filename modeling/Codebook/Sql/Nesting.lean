import Codebook.Sql.Quotation

/-!
# Quotations and parentheses

A walk over SQL text that knows, at every character, whether it is quoted and how many parentheses
are open.  Both parentheses of a pair are seen at the depth outside of them.  A closing parenthesis
that has no partner is seen at depth zero and changes nothing.

What is here: `Nesting`, the state of the walk; `marks`, the whole walk as data; `breakAt`, the text
before and after the first character of some sort; and `cutAtDepthZero`, the parts between the
top-level characters of some sort.
-/

set_option autoImplicit false

namespace Codebook.Sql

/-- What is open at a place of a text. -/
structure Nesting where
  /-- The mark of the open quotation. -/
  quote : Option Char := none
  /-- The number of open parentheses. -/
  depth : Nat := 0
deriving DecidableEq, Repr

namespace Nesting

/-- What is open after one more character. -/
def after (s : Nesting) (c : Char) : Nesting :=
  match s.quote with
  | some mark => if c = mark then { s with quote := none } else s
  | none =>
    if isQuoteMark c then { s with quote := some c }
    else if c = '(' then { s with depth := s.depth + 1 }
    else if c = ')' then { s with depth := s.depth - 1 }
    else s

/-- The depth at which the next character is seen; quote marks and what they quote are not seen. -/
def level? (s : Nesting) (c : Char) : Option Nat :=
  match s.quote with
  | some _ => none
  | none =>
    if isQuoteMark c then none
    else if c = ')' then some (s.depth - 1)
    else some s.depth

/-- What is open after a whole text. -/
def afterAll (s : Nesting) (cs : List Char) : Nesting := cs.foldl after s

/-- The characters of a text, each with the depth at which it is seen. -/
def marks (s : Nesting) : List Char → List (Char × Option Nat)
  | [] => []
  | c :: cs => (c, s.level? c) :: marks (s.after c) cs

/-- The text before and after the first character that is seen and satisfies `p`. -/
def breakAt (p : Char → Nat → Bool) (s : Nesting) : List Char → Option (List Char × List Char)
  | [] => none
  | c :: cs =>
    if (s.level? c).any (p c) then some ([], cs)
    else (breakAt p (s.after c) cs).map fun (before, rest) => (c :: before, rest)

/-- The parts of a text between the characters in `p` that are seen at depth zero.  There is one
part more than there are such characters. -/
def cutAtDepthZero (p : Char → Bool) (s : Nesting) : List Char → List (List Char)
  | [] => [[]]
  | c :: cs =>
    let parts := cutAtDepthZero p (s.after c) cs
    if p c && s.level? c == some 0 then [] :: parts
    else
      match parts with
      | [] => [[c]]
      | part :: parts => (c :: part) :: parts

end Nesting

end Codebook.Sql
