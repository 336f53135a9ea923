import Codebook.Proofs.Sql.Folding
import Codebook.Proofs.Sql.OneLine

/-!
# A text is cut into statements without loss

What is left of the lines of a text is cut into blocks.  The cuts are where they have to be: after
each fragment that ends in a semicolon, and nowhere else.  So there is only one way to cut, and the
statements of a text are told by it, whichever way it is found.

What is here: `IsSegmentation`, what it is to cut fragments into blocks, and `isSegmentation_iff`,
that there is one way to do so; `isTrimmed_blockText` and `pairwise_line_split`, what follows for
the texts and the lines of statements; and `Statement.split_by_segments`.
-/

set_option autoImplicit false

namespace Codebook.Sql

open Codebook.Text

/-! ## Segmentations -/

/-- What it is to cut fragments into blocks after each fragment that ends in a semicolon. -/
structure IsSegmentation (fs : List Fragment) (bs : List (List Fragment)) : Prop where
  /-- The blocks hold the fragments, in order and without loss. -/
  flatten_eq : bs.flatten = fs
  /-- No block is empty. -/
  ne_nil : ∀ b ∈ bs, b ≠ []
  /-- Only the last fragment of a block may end in a semicolon. -/
  dropLast_open : ∀ b ∈ bs, ∀ f ∈ b.dropLast, endsInSemicolon f.text = false
  /-- The last fragment of each block but the last one does end in a semicolon. -/
  getLast_closed : ∀ b ∈ bs.dropLast, ∀ f ∈ b.getLast?, endsInSemicolon f.text = true

/-- A block at the front. -/
theorem IsSegmentation.cons {b fs : List Fragment} {bs : List (List Fragment)} (hne : b ≠ [])
    (hopen : ∀ f ∈ b.dropLast, endsInSemicolon f.text = false)
    (hclosed : bs ≠ [] → ∀ f ∈ b.getLast?, endsInSemicolon f.text = true)
    (h : IsSegmentation fs bs) : IsSegmentation (b ++ fs) (b :: bs) where
  flatten_eq := by rw [List.flatten_cons, h.flatten_eq]
  ne_nil := List.forall_mem_cons.2 ⟨hne, h.ne_nil⟩
  dropLast_open := List.forall_mem_cons.2 ⟨hopen, h.dropLast_open⟩
  getLast_closed := by
    cases bs with
    | nil => simp
    | cons c bs =>
      rw [List.dropLast_cons_of_ne_nil (List.cons_ne_nil c bs)]
      exact List.forall_mem_cons.2 ⟨hclosed (List.cons_ne_nil c bs), h.getLast_closed⟩

/-- What is left of a segmentation without its first block. -/
theorem IsSegmentation.tail {fs b : List Fragment} {bs : List (List Fragment)}
    (h : IsSegmentation fs (b :: bs)) : IsSegmentation bs.flatten bs where
  flatten_eq := rfl
  ne_nil c hc := h.ne_nil c (List.mem_cons_of_mem b hc)
  dropLast_open c hc := h.dropLast_open c (List.mem_cons_of_mem b hc)
  getLast_closed := by
    cases bs with
    | nil => simp
    | cons c bs =>
      intro x hx
      refine h.getLast_closed x ?_
      rw [List.dropLast_cons_of_ne_nil (List.cons_ne_nil c bs)]
      exact List.mem_cons_of_mem b hx

/-- A fragment that does not end in a semicolon is put before the others of the first block. -/
theorem IsSegmentation.cons_head {f : Fragment} {fs b : List Fragment} {bs : List (List Fragment)}
    (hopen : endsInSemicolon f.text = false) (h : IsSegmentation fs (b :: bs)) :
    IsSegmentation (f :: fs) ((f :: b) :: bs) := by
  have hne : b ≠ [] := h.ne_nil b List.mem_cons_self
  have hflatten : f :: fs = (f :: b) ++ bs.flatten := by rw [← h.flatten_eq]; rfl
  rw [hflatten]
  refine h.tail.cons (List.cons_ne_nil f b) ?_ fun hbs => ?_
  · rw [List.dropLast_cons_of_ne_nil hne]
    exact List.forall_mem_cons.2 ⟨hopen, h.dropLast_open b List.mem_cons_self⟩
  · obtain ⟨g, b, rfl⟩ := List.exists_cons_of_ne_nil hne
    rw [List.getLast?_cons_cons]
    refine h.getLast_closed (g :: b) ?_
    rw [List.dropLast_cons_of_ne_nil hbs]
    exact List.mem_cons_self

theorem isSegmentation_blocks (fs : List Fragment) : IsSegmentation fs (blocks fs) := by
  induction fs with
  | nil => exact ⟨rfl, by simp [blocks], by simp [blocks], by simp [blocks]⟩
  | cons f fs ih =>
    rw [blocks]
    cases hend : endsInSemicolon f.text with
    | true =>
      rw [if_pos rfl]
      exact ih.cons (b := [f]) (List.cons_ne_nil f []) (by simp) fun _ => by simpa using hend
    | false =>
      rw [if_neg Bool.false_ne_true]
      cases hblocks : blocks fs with
      | nil =>
        rw [hblocks] at ih
        exact ih.cons (b := [f]) (List.cons_ne_nil f []) (by simp) fun h => absurd rfl h
      | cons b bs =>
        rw [hblocks] at ih
        exact ih.cons_head hend

/-- **There is one way to cut fragments into blocks.** -/
theorem isSegmentation_iff {fs : List Fragment} {bs : List (List Fragment)} :
    IsSegmentation fs bs ↔ bs = blocks fs := by
  refine ⟨fun h => ?_, fun h => h ▸ isSegmentation_blocks fs⟩
  obtain rfl := h.flatten_eq
  induction bs with
  | nil => rfl
  | cons b bs ih =>
    have htail := ih h.tail
    have hne := h.ne_nil b List.mem_cons_self
    obtain ⟨init, last, rfl⟩ : ∃ init last, b = init ++ [last] :=
      ⟨b.dropLast, b.getLast hne, (List.dropLast_concat_getLast hne).symm⟩
    have hopen : ∀ f ∈ init, endsInSemicolon f.text = false := by
      simpa using h.dropLast_open (init ++ [last]) List.mem_cons_self
    have hfirst : blocks (init ++ [last]) = [init ++ [last]] := blocks_concat hopen last
    cases hbs : bs with
    | nil => rw [List.flatten_singleton, hfirst]
    | cons c cs =>
      -- the first block is closed, so the others start anew
      have hclosed : Closed (init ++ [last]) := by
        refine h.getLast_closed (init ++ [last]) ?_
        rw [hbs, List.dropLast_cons_of_ne_nil (List.cons_ne_nil c cs)]
        exact List.mem_cons_self
      rw [List.flatten_cons, blocks_append hclosed, hfirst, ← hbs, ← htail]
      rfl

/-! ## The text of a block -/

theorem isTrimmed_joinWith {sep : List Char} {parts : List (List Char)}
    (h : ∀ part ∈ parts, part ≠ [] ∧ IsTrimmed part) :
    IsTrimmed (joinWith sep parts) ∧ (parts ≠ [] → joinWith sep parts ≠ []) := by
  induction parts with
  | nil => exact ⟨⟨by simp [joinWith], by simp [joinWith]⟩, fun hne => absurd rfl hne⟩
  | cons part parts ih =>
    obtain ⟨hpart, htrimmed⟩ := h part List.mem_cons_self
    obtain ⟨hrest, hrest'⟩ := ih fun x hx => h x (List.mem_cons_of_mem part hx)
    cases parts with
    | nil => exact ⟨htrimmed, fun _ => hpart⟩
    | cons next parts =>
      exact ⟨htrimmed.append hpart hrest (hrest' (List.cons_ne_nil next parts)),
        fun _ => by simp [joinWith, hpart]⟩

/-- The text of a block ends in a semicolon. -/
theorem endsInSemicolon_blockText (block : List Fragment) :
    endsInSemicolon (blockText block) = true := by
  dsimp only [blockText]
  split
  · assumption
  · rw [endsInSemicolon, List.getLast?_concat]
    rfl

theorem isTrimmed_blockText {block : List Fragment} (hne : block ≠ [])
    (h : ∀ f ∈ block, f.text ≠ [] ∧ IsTrimmed f.text) : IsTrimmed (blockText block) := by
  obtain ⟨hjoin, hjoin'⟩ := @isTrimmed_joinWith [' '] (block.map Fragment.text)
    (List.forall_mem_map.2 h)
  dsimp only [blockText]
  split
  · exact hjoin
  · have hsemicolon : IsTrimmed [';'] := ⟨by decide, by decide⟩
    have happend : IsTrimmed (joinWith [' '] (block.map Fragment.text) ++ [] ++ [';']) :=
      hjoin.append (hjoin' (by simpa using hne)) hsemicolon (List.cons_ne_nil ';' [])
    rwa [List.append_nil] at happend

/-! ## Statements -/

/-- The line of a statement is that of a fragment in its block. -/
theorem Statement.exists_fragment {block : List Fragment} {s : Statement}
    (h : Statement.ofBlock? block = some s) : ∃ f ∈ block, f.line = s.line := by
  obtain ⟨-, -, hline⟩ := ofBlock?_eq_some_iff.1 h
  obtain ⟨f, hf, hline⟩ := Option.map_eq_some_iff.1 hline
  exact ⟨f, List.mem_of_head? hf, hline⟩

/-- Each statement starts on a later line than the one before it. -/
theorem Statement.pairwise_line_split (text : List Char) :
    (Statement.split text).Pairwise fun s t => s.line < t.line := by
  have hfragments := pairwise_line_fragmentsFrom 1 (cutLines text)
  rw [← fragments, ← flatten_blocks (fragments text), List.pairwise_flatten] at hfragments
  refine List.Pairwise.filterMap Statement.ofBlock? (fun b c hbc s hs t ht => ?_) hfragments.2
  obtain ⟨f, hf, hfs⟩ := exists_fragment hs
  obtain ⟨g, hg, hgt⟩ := exists_fragment ht
  rw [← hfs, ← hgt]
  exact hbc f hf g hg

/-- **A text is cut into statements without loss.**  The fragments of a text are what is left of
its lines, in order and with the numbers of the lines: each line is trimmed, its comments are cut
out, and it is trimmed again, and there is no fragment if that leaves nothing.  There is exactly one
way to cut them into blocks such that each block ends with its only fragment that ends in a
semicolon, or is the last one.  The statements are those blocks whose text is of one of the kinds,
in order: the text is that of the fragments with single spaces between them, and a semicolon if
there is none at the end; and the line is that of the first fragment.  So the text of each statement
ends in a semicolon, has no line feed and no blanks around it; each statement starts on a line of
the text of which something is left; and each starts on a later line than the one before it. -/
theorem Statement.split_by_segments (text : List Char) :
    (fragments text = ((cutLines text).zipIdx 1).filterMap fun x =>
      (fragmentText? x.1).map fun text => ⟨x.2, text⟩) ∧
    (∀ line left, fragmentText? line = some left ↔
      left ≠ [] ∧ ∃ stripped, stripComments (trim line) = some stripped ∧ trim stripped = left) ∧
    (∃ bs, (∀ bs', IsSegmentation (fragments text) bs' ↔ bs' = bs) ∧
      Statement.split text = bs.filterMap Statement.ofBlock? ∧
      ∀ b ∈ bs, ∀ s, Statement.ofBlock? b = some s ↔
        StatementKind.classify (blockText b) = some s.kind ∧ s.text.toList = blockText b ∧
          b.head?.map Fragment.line = some s.line) ∧
    (∀ s ∈ Statement.split text,
      endsInSemicolon s.text.toList = true ∧ '\n' ∉ s.text.toList ∧ IsTrimmed s.text.toList ∧
        0 < s.line ∧
        ∃ line, (cutLines text)[s.line - 1]? = some line ∧ (fragmentText? line).isSome) ∧
    (Statement.split text).Pairwise fun s t => s.line < t.line := by
  have hleft (line left : List Char) : fragmentText? line = some left ↔
      left ≠ [] ∧ ∃ stripped, stripComments (trim line) = some stripped ∧ trim stripped = left := by
    rw [fragmentText?_eq_some_iff, ← Option.map_eq_some_iff, ← Option.map_eq_some_iff,
      stripComments_trim]
  refine ⟨fragmentsFrom_eq 1 (cutLines text), hleft, ⟨blocks (fragments text),
    fun _ => isSegmentation_iff, rfl, fun b _ s => ofBlock?_eq_some_iff⟩, fun s hs => ?_,
    pairwise_line_split text⟩
  obtain ⟨block, hblock, hof⟩ := mem_split_iff.1 hs
  have hfragments : ∀ f ∈ block, f.text ≠ [] ∧ IsTrimmed f.text := fun f hf =>
    isTrimmed_of_mem_fragments (mem_fragments_of_mem_blocks hblock hf)
  obtain ⟨-, htext, -⟩ := ofBlock?_eq_some_iff.1 hof
  obtain ⟨f, hf, hfline⟩ := exists_fragment hof
  obtain ⟨hpos, line, hline, hleft⟩ :=
    mem_fragmentsFrom_iff.1 (mem_fragments_of_mem_blocks hblock hf)
  rw [hfline] at hpos hline
  refine ⟨?_, newline_not_mem_of_mem_split hs, ?_, hpos, line, hline, by rw [hleft]; rfl⟩
  · rw [htext, endsInSemicolon_blockText]
  · rw [htext]
    exact isTrimmed_blockText (ne_nil_of_mem_blocks hblock) hfragments

/-- A statement of another kind, a line that opens a comment within a statement, and a last
statement without a semicolon. -/
def threeBlocks : List Char :=
  "SET x;\nCREATE TABLE t ( -- a;\n/* b;\n  c int\n);\n\nALTER TABLE t ADD d int".toList

/-- The first of the three blocks is no statement, and the others start on the lines of their first
fragments. -/
theorem split_by_segments_threeBlocks :
    Statement.split threeBlocks = [⟨.createTable, "CREATE TABLE t ( c int );", 2⟩,
        ⟨.alterTable, "ALTER TABLE t ADD d int;", 7⟩] ∧
      (∀ bs, IsSegmentation (fragments threeBlocks) bs → bs.length = 3) ∧
      (∀ s ∈ Statement.split threeBlocks, endsInSemicolon s.text.toList = true ∧
        IsTrimmed s.text.toList ∧ 0 < s.line) ∧
      (Statement.split threeBlocks).Pairwise fun s t => s.line < t.line := by
  obtain ⟨-, -, ⟨bs, hunique, -, -⟩, hstatements, hlines⟩ :=
    Statement.split_by_segments threeBlocks
  have hblocks : bs = blocks (fragments threeBlocks) :=
    ((hunique _).1 (isSegmentation_blocks _)).symm
  refine ⟨by decide, fun bs' hbs' => ?_, fun s hs => ?_, hlines⟩
  · rw [(hunique bs').1 hbs', hblocks]
    decide
  · obtain ⟨hend, -, htrimmed, hpos, -⟩ := hstatements s hs
    exact ⟨hend, htrimmed, hpos⟩

end Codebook.Sql
