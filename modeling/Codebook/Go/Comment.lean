import Codebook.Go.Form
import Codebook.Text.Blank
import Codebook.Text.Search

/-!
# Comments of Go

What a comment says is what is left without its markers.  Which declaration it belongs to is told by
the rows: a comment above a declaration ends on the row right above it and stands on rows of its
own, a comment beside it starts on the row on which it ends.

What is here: `commentLines` and `commentText` for what is said; `Location`, a tree among its
siblings; and `Location.above` and `beside` for the comments of a tree.
-/

set_option autoImplicit false

namespace Codebook.Go

open Text

/-! ## What comments say -/

/-- What stands between the markers of a comment in slashes and stars, if it is one. -/
def insideBlock? (raw : List Char) : Option (List Char) :=
  match raw with
  | '/' :: '*' :: rest => (afterPrefix? ['/', '*'] rest.reverse).map List.reverse
  | _ => none

/-- The lines of a text.  What follows the last line end is a line unless it is empty. -/
def linesOf (cs : List Char) : List (List Char) :=
  let lines := cutLines cs
  if lines.getLast? = some [] then lines.dropLast else lines

/-- The lines of a comment, without its markers and without blanks at their ends.  A comment to the
end of the line loses one space after its marker, too. -/
def commentLines (raw : List Char) : List (List Char) :=
  match raw with
  | '/' :: '/' :: ' ' :: rest => [trimRight rest]
  | '/' :: '/' :: rest => [trimRight rest]
  | _ =>
    match insideBlock? raw with
    | some inside => (linesOf inside).map trimRight
    | none => [trimRight raw]

/-- What some comments say together. -/
def commentText (comments : List Token) : String :=
  String.ofList (trim (joinWith ['\n'] (comments.flatMap fun c => commentLines c.text.toList)))

/-! ## Trees among their siblings -/

/-- A tree among its siblings. -/
structure Location where
  /-- The siblings before it, nearest first. -/
  before : List Tree
  /-- The tree. -/
  tree : Tree
  /-- The siblings after it. -/
  after : List Tree

/-- The trees of a list, each among its siblings, where those in `before` come first. -/
def locationsFrom (before : List Tree) : List Tree → List Location
  | [] => []
  | t :: ts => ⟨before, t, ts⟩ :: locationsFrom (t :: before) ts

/-- The trees of a list, each among its siblings. -/
def locations (forest : List Tree) : List Location := locationsFrom [] forest

/-- Every tree of a list has its location. -/
theorem map_tree_locationsFrom (before forest : List Tree) :
    (locationsFrom before forest).map Location.tree = forest := by
  induction forest generalizing before with
  | nil => rfl
  | cons t ts ih => simp [locationsFrom, ih]

/-- The siblings of a location, put back together, are the list that it is of. -/
theorem siblings_of_mem_locationsFrom {before forest : List Tree} {l : Location}
    (h : l ∈ locationsFrom before forest) :
    l.before.reverse ++ l.tree :: l.after = before.reverse ++ forest := by
  induction forest generalizing before with
  | nil => simp [locationsFrom] at h
  | cons t ts ih =>
    rw [locationsFrom, List.mem_cons] at h
    rcases h with rfl | h
    · rfl
    · rw [ih h]
      simp

/-! ## The comments of a tree -/

/-- The comments that end right above a row, each above the other, in the order of the source.  What
has a sibling on the row where it starts is a comment on that one. -/
def commentsAbove (row : Nat) : List Tree → List Token
  | [] => []
  | t :: before =>
    match t.comment? with
    | none => []
    | some c =>
      if c.endRow + 1 = row ∧ !before.head?.any (·.endRow == c.row) then
        commentsAbove c.row before ++ [c]
      else []

/-- The comments above a tree. -/
def Location.above (l : Location) : List Token :=
  commentsAbove l.tree.row (l.before.filter fun t => !t.isLineEnd)

/-- The comment beside what ends on a row.  The levels are what follows it, what follows the tree
that holds it, and so on; the first named tree that follows decides. -/
def beside (row : Nat) : List (List Tree) → Option Token
  | [] => none
  | level :: levels =>
    match level.find? Tree.isNamed with
    | some t => t.comment?.filter fun c => c.row == row
    | none => beside row levels

end Codebook.Go
