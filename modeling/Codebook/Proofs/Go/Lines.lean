import Codebook.Proofs.Go.Matching

/-!
# Reading a text line by line

A line is written as a list of pieces, each of which is one token and may have a space before it.
Where every piece of every line ends where the next one starts, the tokens of the text are the
pieces, on the rows of their lines.

What is here: `Piece`; `IsLine`, that the pieces of a line are read apart; and `scan_lines`.
-/

set_option autoImplicit false

namespace Codebook.Go

/-! ## Pieces and lines -/

/-- A token as it is written in a line. -/
structure Piece where
  /-- There is a space before it. -/
  spaced : Bool
  /-- The sort of the token. -/
  kind : TokenKind
  /-- Its text. -/
  text : List Char

/-- A piece with the space before it. -/
def Piece.written (x : Piece) : List Char := if x.spaced then ' ' :: x.text else x.text

/-- The text of a line, without the end of it. -/
def lineText (xs : List Piece) : List Char := xs.flatMap Piece.written

/-- The text of some lines, each with its end. -/
def linesText (lines : List (List Piece)) : List Char :=
  lines.flatMap fun xs => lineText xs ++ ['\n']

/-- The number of bytes of a text. -/
def width : List Char → Nat
  | [] => 0
  | c :: cs => c.utf8Size + width cs

/-- The tokens of a part of a line that starts in some column. -/
def pieceTokens (row : Nat) : Nat → List Piece → List Token
  | _, [] => []
  | column, x :: xs =>
    ⟨x.kind, String.ofList x.text, row, if x.spaced then column + 1 else column, row⟩ ::
      pieceTokens row (column + width x.written) xs

/-- The token that ends a line. -/
def lineEnd (row : Nat) (xs : List Piece) : Token :=
  ⟨.lineEnd, "\n", row, width (lineText xs), row⟩

theorem isLineEnd_lineEnd (row : Nat) (xs : List Piece) : (lineEnd row xs).isLineEnd = true := rfl

/-- The tokens of some lines, the first of which is on some row. -/
def linesTokens (row : Nat) : List (List Piece) → List Token
  | [] => []
  | xs :: lines => pieceTokens row 0 xs ++ lineEnd row xs :: linesTokens (row + 1) lines

/-- A piece is one token before a text. -/
structure Piece.EndsBefore (x : Piece) (rest : List Char) : Prop where
  /-- It is not empty, and starts with no blank. -/
  head : ∃ c cs, x.text = c :: cs ∧ isGap c = false
  /-- It stands on one line. -/
  oneLine : '\n' ∉ x.text
  /-- It is read up to the text. -/
  matched : matchToken (x.text ++ rest) = some (x.kind, rest)

/-- Some pieces are read apart before a text. -/
def ReadApart : List Piece → List Char → Prop
  | [], _ => True
  | x :: xs, rest => x.EndsBefore (lineText xs ++ rest) ∧ ReadApart xs rest

/-- The pieces of a line are read apart. -/
def IsLine (xs : List Piece) : Prop := ∀ rest, ReadApart xs ('\n' :: rest)

theorem width_append (cs ds : List Char) : width (cs ++ ds) = width cs + width ds := by
  induction cs with
  | nil => exact (Nat.zero_add _).symm
  | cons c cs ih => rw [List.cons_append, width, width, ih, Nat.add_assoc]

theorem lineText_cons (x : Piece) (xs : List Piece) :
    lineText (x :: xs) = x.written ++ lineText xs := List.flatMap_cons

theorem readApart_append {xs ys : List Piece} {rest : List Char}
    (hxs : ReadApart xs (lineText ys ++ rest)) (hys : ReadApart ys rest) :
    ReadApart (xs ++ ys) rest := by
  induction xs with
  | nil => exact hys
  | cons x xs ih =>
    obtain ⟨hx, hxs⟩ := hxs
    refine ⟨?_, ih hxs⟩
    have happend : lineText (xs ++ ys) = lineText xs ++ lineText ys := List.flatMap_append
    show x.EndsBefore (lineText (xs ++ ys) ++ rest)
    rwa [happend, List.append_assoc]

theorem pieceTokens_append (row column : Nat) (xs ys : List Piece) :
    pieceTokens row column (xs ++ ys) =
      pieceTokens row column xs ++ pieceTokens row (column + width (lineText xs)) ys := by
  induction xs generalizing column with
  | nil => rfl
  | cons x xs ih =>
    rw [List.cons_append, pieceTokens, pieceTokens, ih, List.cons_append, lineText_cons,
      width_append, Nat.add_assoc]

theorem row_of_mem_pieceTokens {row column : Nat} {xs : List Piece} :
    ∀ t ∈ pieceTokens row column xs, t.row = row ∧ t.endRow = row := by
  induction xs generalizing column with
  | nil => exact fun _ h => nomatch h
  | cons x xs ih => exact List.forall_mem_cons.2 ⟨⟨rfl, rfl⟩, ih⟩

theorem linesTokens_append (row : Nat) (a b : List (List Piece)) :
    linesTokens row (a ++ b) = linesTokens row a ++ linesTokens (row + a.length) b := by
  induction a generalizing row with
  | nil => rfl
  | cons xs a ih =>
    rw [List.cons_append, linesTokens, linesTokens, ih, List.append_assoc, List.length_cons,
      Nat.add_assoc, Nat.add_comm 1]
    rfl

/-! ## Reading -/

/-- From a place on the tokens of a text are these, however much fuel there is beyond its length. -/
def Scans (p : Place) (cs : List Char) (ts : List Token) : Prop :=
  ∀ fuel, cs.length ≤ fuel → Token.scanFrom fuel p cs = .ok ts

theorem foldl_after {cs : List Char} (h : '\n' ∉ cs) (row column : Nat) :
    cs.foldl Place.after ⟨row, column⟩ = ⟨row, column + width cs⟩ := by
  induction cs generalizing column with
  | nil => rfl
  | cons c cs ih =>
    rw [List.mem_cons, not_or] at h
    rw [List.foldl_cons, Place.after, if_neg (Ne.symm h.1), ih h.2, width, Nat.add_assoc]

namespace Scans

variable {p : Place} {cs rest : List Char} {ts : List Token}

theorem nil (p : Place) : Scans p [] [] := by
  intro fuel _
  cases fuel <;> rfl

theorem gap {c : Char} (hc : isGap c = true) (h : Scans (p.after c) cs ts) :
    Scans p (c :: cs) ts := by
  intro fuel hfuel
  cases fuel with
  | zero => simp at hfuel
  | succ fuel =>
    rw [Token.scanFrom, if_pos hc]
    exact h fuel (Nat.le_of_succ_le_succ hfuel)

/-- One more token at the front. -/
theorem cons {c : Char} {kind : TokenKind} (hc : isGap c = false)
    (hmatch : matchToken (c :: (cs ++ rest)) = some (kind, rest))
    (h : Scans ((c :: cs).foldl Place.after p) rest ts) :
    Scans p (c :: (cs ++ rest))
      (⟨kind, String.ofList (c :: cs), p.row, p.column,
        if kind = .lineEnd then p.row else ((c :: cs).foldl Place.after p).row⟩ :: ts) := by
  intro fuel hfuel
  cases fuel with
  | zero => simp at hfuel
  | succ fuel =>
    have htake : (c :: (cs ++ rest)).take ((c :: (cs ++ rest)).length - rest.length) = c :: cs := by
      rw [← List.cons_append, List.length_append, Nat.add_sub_cancel, List.take_left]
    rw [Token.scanFrom, hc, if_neg Bool.false_ne_true]
    simp only [hmatch, htake]
    rw [h fuel (by simp at hfuel; omega)]

theorem piece {x : Piece} {row column : Nat} (hx : x.EndsBefore rest)
    (h : Scans ⟨row, column + width x.text⟩ rest ts) :
    Scans ⟨row, column⟩ (x.text ++ rest)
      (⟨x.kind, String.ofList x.text, row, column, row⟩ :: ts) := by
  obtain ⟨c, cs, htext, hc⟩ := hx.head
  have hmatch := hx.matched
  have hline := hx.oneLine
  rw [htext] at hmatch hline h ⊢
  have hcons : Scans ⟨row, column⟩ _ _ := cons hc hmatch (by rwa [foldl_after hline])
  rwa [foldl_after hline, ite_self] at hcons

theorem line {xs : List Piece} (hxs : ReadApart xs ('\n' :: rest)) {row column : Nat}
    (h : Scans ⟨row + 1, 0⟩ rest ts) :
    Scans ⟨row, column⟩ (lineText xs ++ '\n' :: rest)
      (pieceTokens row column xs ++
        ⟨.lineEnd, "\n", row, column + width (lineText xs), row⟩ :: ts) := by
  induction xs generalizing column with
  | nil =>
    exact show Scans ⟨row, column⟩ ('\n' :: ([] ++ rest)) _ from cons (by decide) rfl h
  | cons x xs ih =>
    obtain ⟨hx, hxs⟩ := hxs
    have hrest : Scans ⟨row, column + width x.written⟩ _ _ := ih hxs
    rw [Nat.add_assoc, ← width_append, ← lineText_cons] at hrest
    have htext : lineText (x :: xs) ++ '\n' :: rest =
        x.written ++ (lineText xs ++ '\n' :: rest) := by
      rw [lineText_cons, List.append_assoc]
    rw [htext, pieceTokens, List.cons_append]
    cases hspaced : x.spaced with
    | false =>
      have hwritten : x.written = x.text := by
        rw [Piece.written, hspaced, if_neg Bool.false_ne_true]
      rw [hwritten] at hrest ⊢
      exact piece hx hrest
    | true =>
      have hwritten : x.written = ' ' :: x.text := by rw [Piece.written, hspaced, if_pos rfl]
      have hwidth : column + width x.written = column + 1 + width x.text := by
        rw [hwritten, Nat.add_assoc]
        rfl
      rw [hwidth] at hrest ⊢
      rw [hwritten]
      exact gap (by decide) (piece hx hrest)

theorem lines {lines : List (List Piece)} (hlines : ∀ xs ∈ lines, IsLine xs) (row : Nat) :
    Scans ⟨row, 0⟩ (linesText lines) (linesTokens row lines) := by
  induction lines generalizing row with
  | nil => exact nil _
  | cons xs lines ih =>
    have hmore := ih (fun ys hys => hlines ys (List.mem_cons_of_mem _ hys)) (row + 1)
    have hline : Scans ⟨row, 0⟩ _ _ := line (hlines xs List.mem_cons_self _) hmore
    rw [Nat.zero_add] at hline
    rw [linesText, List.flatMap_cons, List.append_assoc]
    exact hline

end Scans

/-- **The tokens of some lines are their pieces**, if there is no byte-order mark at the front. -/
theorem scan_lines {lines : List (List Piece)} (hlines : ∀ xs ∈ lines, IsLine xs)
    (hmark : ∀ rest, linesText lines ≠ '\uFEFF' :: rest) :
    Token.scan (linesText lines) = .ok (linesTokens 0 lines) := by
  have hscan := Scans.lines hlines 0 (linesText lines).length (Nat.le_refl _)
  rw [Token.scan]
  · exact hscan
  · exact hmark

end Codebook.Go
