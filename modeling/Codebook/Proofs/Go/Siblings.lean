import Codebook.Go.Scan
import Codebook.Proofs.Go.ConstReading

/-!
# Whose comment it is

Which constant a comment belongs to is told by rows.  The comments above a constant end at what
stands before them: a constant ends on a row above them, and a comment beside that constant shares
its row.  The comment beside a constant is the next named tree, if that starts on the same row; else
that is the next constant, or a comment above it.

What is here: `OnRows`, comments on consecutive rows; `Stops`, what ends the comments above;
`StandFrom`, the rows of some lines; and `specsOf_lines`, the comments of each of them.
-/

set_option autoImplicit false

namespace Codebook.Go

/-! ## Comments above -/

/-- These are comments, each on a row of its own, from some row on. -/
def OnRows : Nat → List Token → Prop
  | _, [] => True
  | row, c :: cs => c.isComment = true ∧ c.row = row ∧ c.endRow = row ∧ OnRows (row + 1) cs

/-- The siblings before a tree, without line ends. -/
def withoutLineEnds (before : List Tree) : List Tree := before.filter fun t => !t.isLineEnd

/-- What stands before a row has no comment that belongs to it. -/
structure Stops (row : Nat) (before : List Tree) : Prop where
  /-- No comment is right above the row. -/
  commentsAbove_eq_nil : commentsAbove row before = []
  /-- All ends above the row. -/
  endRow_lt : ∀ t ∈ before.head?, t.endRow < row

theorem Tree.endRow_leaf (t : Token) : (Tree.leaf t).endRow = t.endRow := rfl

/-- Comments on consecutive rows all belong to the row below. -/
theorem commentsAbove_append {row : Nat} {cs : List Token} (h : OnRows row cs)
    {before : List Tree} (hbefore : ∀ t ∈ before.head?, t.endRow < row) :
    commentsAbove (row + cs.length) ((cs.map .leaf).reverse ++ before) =
      commentsAbove row before ++ cs := by
  induction cs generalizing row before with
  | nil => exact (List.append_nil _).symm
  | cons c cs ih =>
    obtain ⟨hcomment, hrow, hendRow, hcs⟩ := h
    have hlast : ∀ t ∈ (Tree.leaf c :: before).head?, t.endRow < row + 1 := by
      intro t ht
      obtain rfl := Option.some.inj ht
      rw [Tree.endRow_leaf, hendRow]
      exact Nat.lt_succ_self row
    have hmore := ih hcs hlast
    have hother : before.head?.any (fun t => t.endRow == row) = false := by
      cases before with
      | nil => rfl
      | cons t before => exact beq_eq_false_iff_ne.2 (Nat.ne_of_lt (hbefore t rfl))
    have hone : commentsAbove (row + 1) (.leaf c :: before) = commentsAbove row before ++ [c] := by
      rw [commentsAbove]
      simp [Tree.comment?, hcomment, hendRow, hrow, hother]
    rw [List.length_cons, ← Nat.add_assoc, Nat.add_right_comm, List.map_cons, List.reverse_cons,
      List.append_assoc, List.singleton_append, hmore, hone, List.append_assoc,
      List.singleton_append]

/-- The comments above a row, after what has no comment that belongs to the first of them. -/
theorem Stops.commentsAbove_eq {row : Nat} {cs : List Token} {before : List Tree}
    (hbefore : Stops row before) (h : OnRows row cs) :
    commentsAbove (row + cs.length) ((cs.map .leaf).reverse ++ before) = cs := by
  rw [commentsAbove_append h hbefore.endRow_lt, hbefore.commentsAbove_eq_nil, List.nil_append]

/-- A tree that is no comment ends the comments above. -/
theorem stops_cons {row : Nat} {t : Tree} (ht : t.isComment = false) (hrow : t.endRow < row)
    (before : List Tree) : Stops row (t :: before) := by
  have hcomment : t.comment? = none := by
    rwa [Tree.isComment, Option.isSome_eq_false_iff, Option.isNone_iff_eq_none] at ht
  constructor
  · rw [commentsAbove, hcomment]
  · intro x hx
    obtain rfl := Option.some.inj hx
    exact hrow

/-- A comment beside a tree belongs to that, and ends the comments above. -/
theorem stops_beside {row : Nat} {c : Token} {t : Tree} (hrow : c.row = row)
    (hendRow : c.endRow = row) (ht : t.endRow = row) (before : List Tree) :
    Stops (row + 1) (.leaf c :: t :: before) := by
  constructor
  · rw [commentsAbove]
    split
    · rfl
    · rename_i d hd
      obtain rfl : c = d := by
        rw [Tree.comment?] at hd
        split at hd <;> cases hd
        rfl
      rw [if_neg]
      simp [ht, hrow]
  · intro x hx
    obtain rfl := Option.some.inj hx
    rw [Tree.endRow_leaf, hendRow]
    exact Nat.lt_succ_self row

/-! ## The rows of a constant -/

theorem forestTokens_map_leaf (ts : List Token) : Tree.forestTokens (ts.map .leaf) = ts := by
  induction ts with
  | nil => rfl
  | cons t ts ih => rw [List.map_cons, Tree.forestTokens, ih]; rfl

theorem forestTokens_specParts (ts : List Token) : Tree.forestTokens (specParts ts) = ts := by
  match ts with
  | [] => rfl
  | [name] => rfl
  | name :: eq :: ts =>
    simp only [specParts, Tree.forestTokens, Tree.tokens, forestTokens_map_leaf]
    simp

namespace SpecLine

/-- The comments above a constant. -/
def comments (l : SpecLine) : List Token := l.above.filter Token.isComment

/-- The rows of a line, of which the first comment is on some row. -/
structure StandsOn (l : SpecLine) (row : Nat) : Prop where
  /-- The comments are on consecutive rows. -/
  above : OnRows row l.comments
  /-- The constant is on the row below. -/
  spec : ∀ t ∈ l.spec, t.row = row + l.comments.length ∧ t.endRow = row + l.comments.length
  /-- And so is the comment beside it. -/
  beside : ∀ c ∈ l.beside,
    c.row = row + l.comments.length ∧ c.endRow = row + l.comments.length

/-- Lines that stand one below the other from some row on. -/
def StandFrom : Nat → List SpecLine → Prop
  | _, [] => True
  | row, l :: lines => l.StandsOn row ∧ StandFrom (row + l.comments.length + 1) lines

/-- The tree of the constant. -/
def tree (l : SpecLine) : Tree := .node .spec (specParts l.spec)

theorem tokens_tree (l : SpecLine) : l.tree.tokens = l.spec := forestTokens_specParts l.spec

theorem spec_ne_nil (l : SpecLine) : l.spec ≠ [] := by
  have h := l.isSpec
  rintro heq
  rw [heq] at h
  cases h

theorem row_tree (l : SpecLine) {row : Nat} (h : ∀ t ∈ l.spec, t.row = row ∧ t.endRow = row) :
    l.tree.row = row := by
  rw [Tree.row, tokens_tree]
  obtain ⟨t, ts, heq⟩ := List.exists_cons_of_ne_nil l.spec_ne_nil
  rw [heq] at h ⊢
  exact (h t List.mem_cons_self).1

theorem endRow_tree (l : SpecLine) {row : Nat}
    (h : ∀ t ∈ l.spec, t.row = row ∧ t.endRow = row) : l.tree.endRow = row := by
  rw [Tree.endRow, tokens_tree, List.getLast?_eq_some_getLast l.spec_ne_nil]
  exact (h _ (List.getLast_mem l.spec_ne_nil)).2

theorem trees_eq (l : SpecLine) :
    l.trees = l.comments.map .leaf ++ l.tree :: (l.beside.toList ++ [l.stop]).map .leaf := by
  rw [List.map_append]
  rfl

end SpecLine

/-! ## The comments of each constant -/

theorem withoutLineEnds_comments {cs : List Token} (hcs : ∀ c ∈ cs, c.isComment = true)
    (before : List Tree) :
    withoutLineEnds ((cs.map .leaf).reverse ++ before) =
      (cs.map .leaf).reverse ++ withoutLineEnds before := by
  have hkeep : (cs.map Tree.leaf).reverse.filter (fun t => !t.isLineEnd) =
      (cs.map Tree.leaf).reverse := by
    rw [List.filter_eq_self]
    intro t ht
    obtain ⟨c, hc, rfl⟩ := List.mem_map.1 (List.mem_reverse.1 ht)
    simp [Tree.isLineEnd, Token.isLineEnd_of_isComment (hcs c hc)]
  rw [withoutLineEnds, List.filter_append, hkeep]
  rfl

theorem withoutLineEnds_cons_of_not {t : Tree} (ht : t.isLineEnd = false) (before : List Tree) :
    withoutLineEnds (t :: before) = t :: withoutLineEnds before :=
  List.filter_cons_of_pos (by rw [ht]; rfl)

theorem withoutLineEnds_stop {stop : Token} (hstop : stop.isLineEnd = true) (before : List Tree) :
    withoutLineEnds (.leaf stop :: before) = withoutLineEnds before :=
  List.filter_cons_of_neg (by simp [Tree.isLineEnd, hstop])

/-- Punctuation is passed over on the way to the comment beside something. -/
theorem beside_cons_of_not {t : Tree} (ht : t.isNamed = false) (row : Nat) (level : List Tree)
    (levels : List (List Tree)) :
    beside row ((t :: level) :: levels) = beside row (level :: levels) := by
  rw [beside, beside, List.find?_cons_of_neg (by rw [ht]; exact Bool.false_ne_true)]

namespace SpecLine

variable {l : SpecLine} {row : Nat}

theorem isComment_of_mem_comments (l : SpecLine) : ∀ c ∈ l.comments, c.isComment = true :=
  fun _ hc => (List.mem_filter.1 hc).2

/-- A line has nothing that belongs to the row below. -/
theorem StandsOn.stops (hl : l.StandsOn row) (before : List Tree) :
    Stops (row + l.comments.length + 1) (withoutLineEnds
      (((l.beside.toList ++ [l.stop]).map .leaf).reverse ++ l.tree :: before)) := by
  have hendRow := l.endRow_tree hl.spec
  rw [List.map_append, List.reverse_append, List.append_assoc]
  show Stops _ (withoutLineEnds (.leaf l.stop :: _))
  rw [withoutLineEnds_stop l.isLineEnd_stop]
  cases hbeside : l.beside with
  | none =>
    show Stops _ (withoutLineEnds (l.tree :: before))
    rw [withoutLineEnds_cons_of_not rfl]
    exact stops_cons rfl (by rw [hendRow]; exact Nat.lt_succ_self _) _
  | some c =>
    have hcomment : (Tree.leaf c).isLineEnd = false :=
      Token.isLineEnd_of_isComment (l.isComment_beside c hbeside)
    obtain ⟨hrow, hend⟩ := hl.beside c hbeside
    show Stops _ (withoutLineEnds (.leaf c :: l.tree :: before))
    rw [withoutLineEnds_cons_of_not hcomment, withoutLineEnds_cons_of_not rfl]
    exact stops_beside hrow hend hendRow _

/-- The comments above a constant are its own. -/
theorem StandsOn.above_eq (hl : l.StandsOn row) {before : List Tree}
    (hbefore : Stops row (withoutLineEnds before)) (after : List Tree) :
    (Location.mk ((l.comments.map .leaf).reverse ++ before) l.tree after).above = l.comments := by
  have habove := hbefore.commentsAbove_eq hl.above
  rw [← withoutLineEnds_comments l.isComment_of_mem_comments, ← l.row_tree hl.spec] at habove
  exact habove

/-- The comment beside a constant is its own. -/
theorem StandsOn.beside_eq (hl : l.StandsOn row) {more : List Tree} {levels : List (List Tree)}
    (hmore : Go.beside (row + l.comments.length) (more :: levels) = none) :
    Go.beside l.tree.endRow
      (((l.beside.toList ++ [l.stop]).map .leaf ++ more) :: levels) = l.beside := by
  have hstop : (Tree.leaf l.stop).isNamed = false := Token.isComment_of_isLineEnd l.isLineEnd_stop
  rw [l.endRow_tree hl.spec]
  cases hbeside : l.beside with
  | none =>
    exact (beside_cons_of_not hstop _ _ _).trans hmore
  | some c =>
    have hcomment := l.isComment_beside c hbeside
    have hrow := (hl.beside c hbeside).1
    show Go.beside _ ((.leaf c :: .leaf l.stop :: more) :: levels) = some c
    rw [Go.beside, List.find?_cons_of_pos (by exact hcomment)]
    simp [Tree.comment?, hcomment, hrow, Option.filter]

/-- What follows a row has no comment beside that. -/
theorem beside_lines {lines : List SpecLine} (hlines : StandFrom (row + 1) lines) {closing : Token}
    (hclosing : closing.isComment = false) {outer : List Tree}
    (houter : ∀ t ∈ outer, t.isNamed = false) :
    Go.beside row [lines.flatMap SpecLine.trees ++ [.leaf closing], outer] = none := by
  cases lines with
  | nil =>
    have hfind : outer.find? Tree.isNamed = none := List.find?_eq_none.2 (by simpa using houter)
    have hclose : [Tree.leaf closing].find? Tree.isNamed = none := by
      simp [Tree.isNamed, hclosing]
    rw [List.flatMap_nil, List.nil_append, Go.beside, hclose]
    simp only [Go.beside, hfind]
  | cons l lines =>
    obtain ⟨hl, -⟩ := hlines
    rw [List.flatMap_cons, trees_eq, List.append_assoc, List.append_assoc, Go.beside]
    cases hcomments : l.comments with
    | nil =>
      rw [List.map_nil, List.nil_append, List.cons_append, List.find?_cons_of_pos (by rfl)]
      rfl
    | cons c cs =>
      obtain ⟨hcomment, hrow, -, -⟩ := hcomments ▸ hl.above
      rw [List.map_cons, List.cons_append, List.find?_cons_of_pos (by exact hcomment)]
      simp [Tree.comment?, hcomment, hrow, Option.filter]

end SpecLine

/-! ## The specifications of a declaration -/

/-- A line as a specification with its comments. -/
def SpecLine.toSpec (l : SpecLine) : Spec := ⟨specParts l.spec, l.comments, l.beside⟩

/-- The specifications at a place of a declaration. -/
def specsAt (outer : List Tree) (l : Location) : List Spec :=
  match l.tree with
  | .node .varList inner => specsAmong [l.after, outer] inner
  | .node .spec inner => [⟨inner, l.above, beside l.tree.endRow [l.after, outer]⟩]
  | _ => []

/-- Tokens by themselves add nothing to what is taken from the declarations among them. -/
theorem flatMap_locationsFrom_leaves {α : Type} {f : Location → List α}
    (hf : ∀ before t after, f ⟨before, .leaf t, after⟩ = []) (ts : List Token)
    (before rest : List Tree) :
    (locationsFrom before (ts.map .leaf ++ rest)).flatMap f =
      (locationsFrom ((ts.map .leaf).reverse ++ before) rest).flatMap f := by
  induction ts generalizing before with
  | nil => rfl
  | cons t ts ih =>
    rw [List.map_cons, List.cons_append, locationsFrom, List.flatMap_cons, hf, List.nil_append, ih,
      List.reverse_cons, List.append_assoc, List.singleton_append]

theorem specsAt_leaf (outer before : List Tree) (t : Token) (after : List Tree) :
    specsAt outer ⟨before, .leaf t, after⟩ = [] := rfl

theorem flatMap_specsAt_lines {lines : List SpecLine} {row : Nat}
    (hlines : SpecLine.StandFrom row lines) {before : List Tree}
    (hbefore : Stops row (withoutLineEnds before)) {closing : Token}
    (hclosing : closing.isComment = false) {outer : List Tree}
    (houter : ∀ t ∈ outer, t.isNamed = false) :
    (locationsFrom before (lines.flatMap SpecLine.trees ++ [.leaf closing])).flatMap
      (specsAt outer) = lines.map SpecLine.toSpec := by
  induction lines generalizing row before with
  | nil => rfl
  | cons l lines ih =>
    obtain ⟨hl, hlines⟩ := hlines
    have hmore := ih hlines (hl.stops ((l.comments.map .leaf).reverse ++ before))
    have habove := hl.above_eq hbefore
      ((l.beside.toList ++ [l.stop]).map .leaf ++ (lines.flatMap SpecLine.trees ++ [.leaf closing]))
    have hbeside := hl.beside_eq (SpecLine.beside_lines hlines hclosing houter)
    have hspec : specsAt outer ⟨(l.comments.map .leaf).reverse ++ before, l.tree,
        (l.beside.toList ++ [l.stop]).map .leaf ++
          (lines.flatMap SpecLine.trees ++ [.leaf closing])⟩ = [l.toSpec] := by
      show [Spec.mk (specParts l.spec) (Location.above _) (beside l.tree.endRow _)] = _
      rw [habove, hbeside]
      rfl
    rw [List.flatMap_cons, SpecLine.trees_eq, List.append_assoc, List.append_assoc,
      flatMap_locationsFrom_leaves (specsAt_leaf outer), List.cons_append, locationsFrom,
      List.flatMap_cons, flatMap_locationsFrom_leaves (specsAt_leaf outer), hmore, hspec]
    rfl

/-- **Each constant has the comments above it and the comment beside it.** -/
theorem specsOf_lines {lines : List SpecLine} {row : Nat} (hlines : SpecLine.StandFrom row lines)
    {const opening closing : Token} (hopening : opening.kind = .symbol)
    (hrow : opening.endRow < row) (hclosing : closing.kind = .symbol) {outer : List Tree}
    (houter : ∀ t ∈ outer, t.isNamed = false) :
    specsOf outer (.leaf const :: .leaf opening ::
      (lines.flatMap SpecLine.trees ++ [.leaf closing])) = lines.map SpecLine.toSpec := by
  have hcomment {t : Token} (ht : t.kind = .symbol) : t.isComment = false := by
    simp [Token.isComment, ht]
  have hlineEnd : (Tree.leaf opening).isLineEnd = false := by
    simp [Tree.isLineEnd, Token.isLineEnd, hopening]
  have hstops : Stops row (withoutLineEnds [.leaf opening, .leaf const]) := by
    rw [withoutLineEnds_cons_of_not hlineEnd]
    exact stops_cons (Tree.isComment_leaf_of_kind hopening (by decide)) hrow _
  exact (flatMap_locationsFrom_leaves (specsAt_leaf outer) [const, opening] [] _).trans
    (flatMap_specsAt_lines hlines hstops (hcomment hclosing) houter)

end Codebook.Go
