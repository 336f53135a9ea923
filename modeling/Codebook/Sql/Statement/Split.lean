import Codebook.Sql.Quotation
import Codebook.Sql.Statement

/-!
# Splitting a file into statements

The split works by lines.  From each line its comments are cut out, and what is left, if anything,
is a *fragment*.  The fragments are gathered into *blocks*, each closed by a fragment that ends in a
semicolon, and a block of one of the kinds becomes a statement: its fragments joined by single
spaces.

A line that opens a block comment and does not close it is dropped; block comments are not followed
from line to line.  Quotes are: within `'`, `"` or a backtick nothing starts a comment.

What is here: `stripComments`, `fragments`, `blocks`, and `Statement.split`, which puts them
together.
-/

set_option autoImplicit false

namespace Codebook.Sql

open Codebook.Text

/-! ## Comments -/

/-- Where the reading of a line stands. -/
inductive LineMode where
  /-- Outside of quotations and comments. -/
  | plain
  /-- Within a quotation. -/
  | quoted (mark : Char)
  /-- Within a block comment, right after an asterisk or not. -/
  | comment (afterStar : Bool)
deriving DecidableEq, Repr

/-- A line without its comments, from some mode on; a block comment leaves a space.  There is no
such line if a block comment stays open. -/
def stripFrom : LineMode → List Char → Option (List Char)
  | .plain, [] => some []
  | .quoted _, [] => some []
  | .comment _, [] => none
  | .quoted mark, c :: cs =>
    (stripFrom (if c = mark then .plain else .quoted mark) cs).map (c :: ·)
  | .comment afterStar, c :: cs =>
    if afterStar ∧ c = '/' then (stripFrom .plain cs).map (' ' :: ·)
    else stripFrom (.comment (c == '*')) cs
  | .plain, '-' :: '-' :: _ => some []
  | .plain, '/' :: '*' :: cs => stripFrom (.comment false) cs
  | .plain, c :: cs =>
    (stripFrom (if isQuoteMark c then .quoted c else .plain) cs).map (c :: ·)

/-- A line without its comments. -/
def stripComments (line : List Char) : Option (List Char) := stripFrom .plain line

/-! ## Fragments -/

/-- What is left of a line, and the number of the line. -/
structure Fragment where
  /-- The number of the line, counted from one. -/
  line : Nat
  /-- The text, which is not empty and has no blanks around it. -/
  text : List Char
deriving DecidableEq, Repr

/-- What is left of a line: nothing if it is blank, a comment, or opens a block comment. -/
def fragmentText? (line : List Char) : Option (List Char) :=
  match (stripComments (trim line)).map trim with
  | some (c :: cs) => some (c :: cs)
  | _ => none

/-- The fragments of the lines from a given number on. -/
def fragmentsFrom (number : Nat) : List (List Char) → List Fragment
  | [] => []
  | line :: lines =>
    match fragmentText? line with
    | some text => ⟨number, text⟩ :: fragmentsFrom (number + 1) lines
    | none => fragmentsFrom (number + 1) lines

/-- The fragments of a text. -/
def fragments (text : List Char) : List Fragment := fragmentsFrom 1 (cutLines text)

/-! ## Blocks -/

/-- Whether a text ends in a semicolon. -/
def endsInSemicolon (text : List Char) : Bool := text.getLast? == some ';'

/-- The fragments in groups, each of which ends with its only fragment that ends in a semicolon, or
with the last fragment of all. -/
def blocks : List Fragment → List (List Fragment)
  | [] => []
  | f :: fs =>
    if endsInSemicolon f.text then [f] :: blocks fs
    else
      match blocks fs with
      | [] => [[f]]
      | block :: rest => (f :: block) :: rest

/-- The text of a block, ended by a semicolon. -/
def blockText (block : List Fragment) : List Char :=
  let text := joinWith [' '] (block.map Fragment.text)
  if endsInSemicolon text then text else text ++ [';']

/-- The statement that a block holds, if it is of one of the kinds. -/
def Statement.ofBlock? : List Fragment → Option Statement
  | [] => none
  | f :: fs =>
    let text := blockText (f :: fs)
    (StatementKind.classify text).map fun kind => ⟨kind, String.ofList text, f.line⟩

/-- The statements of a text. -/
def Statement.split (text : List Char) : List Statement :=
  (blocks (fragments text)).filterMap Statement.ofBlock?

/-- The blocks hold the fragments, in order and without loss. -/
theorem flatten_blocks (fs : List Fragment) : (blocks fs).flatten = fs := by
  induction fs with
  | nil => rfl
  | cons f fs ih =>
    rw [blocks]
    split
    · simp [ih]
    · cases h : blocks fs with
      | nil => rw [h] at ih; simpa using ih
      | cons block rest => rw [h] at ih; simpa using ih

/-- No block is empty. -/
theorem ne_nil_of_mem_blocks {fs block : List Fragment} (h : block ∈ blocks fs) : block ≠ [] := by
  induction fs generalizing block with
  | nil => simp [blocks] at h
  | cons f fs ih =>
    rw [blocks] at h
    split at h
    · rcases List.mem_cons.1 h with rfl | h
      · simp
      · exact ih h
    · cases hb : blocks fs with
      | nil => rw [hb] at h; simp at h; simp [h]
      | cons b rest =>
        rw [hb] at h
        rcases List.mem_cons.1 h with rfl | h
        · simp
        · exact ih (by rw [hb]; exact List.mem_cons_of_mem _ h)

end Codebook.Sql
