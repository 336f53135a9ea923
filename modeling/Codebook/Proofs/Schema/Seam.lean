import Codebook.Proofs.Schema.Run
import Codebook.Proofs.Text.Blank

/-!
# Texts that are put together

Where one text follows another on a new line, the statements are those of the first text and then
those of the second, if the seam is between statements: the last fragment of the first text ends in
a semicolon, or there is none.  The lines of the second text are counted on from those of the first.

What is here: `Closed`, the condition on the first text; one lemma for each stage of the split,
`fragments_append`, `blocks_append` and `Statement.split_append`; and `Recovery.text_seam`, with the
effect on the schema, which does not depend on the lines of statements.
-/

set_option autoImplicit false

namespace Codebook.Sql

open Codebook.Text

/-! ## Other line numbers -/

/-- A fragment with another line number. -/
def Fragment.renumber (r : Nat → Nat) (f : Fragment) : Fragment := { f with line := r f.line }

/-- A statement with another line number. -/
def Statement.renumber (r : Nat → Nat) (s : Statement) : Statement := { s with line := r s.line }

/-- A fragment so many lines further down. -/
def Fragment.down (k : Nat) (f : Fragment) : Fragment := { f with line := f.line + k }

/-- A statement so many lines further down. -/
def Statement.down (k : Nat) (s : Statement) : Statement := { s with line := s.line + k }

/-! ## Fragments -/

theorem fragmentsFrom_append (n : Nat) (lines more : List (List Char)) :
    fragmentsFrom n (lines ++ more) =
      fragmentsFrom n lines ++ fragmentsFrom (n + lines.length) more := by
  induction lines generalizing n with
  | nil => rfl
  | cons line lines ih =>
    rw [List.cons_append, fragmentsFrom, fragmentsFrom, ih, List.length_cons,
      Nat.add_assoc n 1 lines.length, Nat.add_comm 1 lines.length]
    cases fragmentText? line <;> rfl

/-- Lines that are counted from further down have the same fragments further down. -/
theorem fragmentsFrom_add (n k : Nat) (lines : List (List Char)) :
    fragmentsFrom (n + k) lines = (fragmentsFrom n lines).map (Fragment.down k) := by
  induction lines generalizing n with
  | nil => rfl
  | cons line lines ih =>
    rw [fragmentsFrom, fragmentsFrom, Nat.add_right_comm, ih]
    cases fragmentText? line <;> rfl

/-- The fragments of the second text come after those of the first, as many lines further down as
the first text has. -/
theorem fragments_append (a b : List Char) :
    fragments (a ++ '\n' :: b) =
      fragments a ++ (fragments b).map (Fragment.down (a.count '\n' + 1)) := by
  have hlines : (cutLines a).length = a.count '\n' + 1 := length_cutAt _ a
  rw [fragments, cutLines, cutAt_append_cons (by simp), fragmentsFrom_append, ← cutLines, hlines,
    fragmentsFrom_add]
  rfl

/-! ## Blocks -/

/-- A list of fragments is closed if its last block is: the last fragment ends in a semicolon, or
there is none. -/
def Closed (fs : List Fragment) : Prop := ∀ f ∈ fs.getLast?, endsInSemicolon f.text = true

instance : DecidablePred Closed := fun fs =>
  decidable_of_iff (∀ f ∈ fs.getLast?.toList, endsInSemicolon f.text = true) (by simp [Closed])

theorem Closed.tail {f : Fragment} {fs : List Fragment} (h : Closed (f :: fs)) : Closed fs := by
  intro g hg
  refine h g ?_
  rw [List.getLast?_cons, Option.mem_def.1 hg]
  rfl

theorem blocks_ne_nil {fs : List Fragment} (h : fs ≠ []) : blocks fs ≠ [] := by
  intro hnil
  have hflat := flatten_blocks fs
  rw [hnil] at hflat
  exact h hflat.symm

/-- After a closed list the blocks start anew. -/
theorem blocks_append {fs : List Fragment} (h : Closed fs) (gs : List Fragment) :
    blocks (fs ++ gs) = blocks fs ++ blocks gs := by
  induction fs with
  | nil => rfl
  | cons f fs ih =>
    rw [List.cons_append, blocks, blocks, ih h.tail]
    split
    · rfl
    · rename_i hopen
      have hne : fs ≠ [] := by
        rintro rfl
        exact hopen (h f rfl)
      obtain ⟨block, rest, hblocks⟩ := List.exists_cons_of_ne_nil (blocks_ne_nil hne)
      rw [hblocks]
      rfl

/-- The blocks are told by the texts. -/
theorem blocks_map_renumber (r : Nat → Nat) (fs : List Fragment) :
    blocks (fs.map (Fragment.renumber r)) = (blocks fs).map (List.map (Fragment.renumber r)) := by
  induction fs with
  | nil => rfl
  | cons f fs ih =>
    rw [List.map_cons, blocks, blocks, ih]
    show (if endsInSemicolon f.text = true then _ else _) = _
    split
    · rfl
    · cases blocks fs <;> rfl

/-! ## Statements -/

theorem Statement.ofBlock?_map_renumber (r : Nat → Nat) (block : List Fragment) :
    Statement.ofBlock? (block.map (Fragment.renumber r)) =
      (Statement.ofBlock? block).map (Statement.renumber r) := by
  cases block with
  | nil => rfl
  | cons f fs =>
    have htext : blockText ((f :: fs).map (Fragment.renumber r)) = blockText (f :: fs) := by
      rw [blockText, List.map_map, blockText]
      rfl
    rw [List.map_cons, ofBlock?, ← List.map_cons, htext, ofBlock?, Option.map_map]
    rfl

/-- Fragments with other line numbers make the same statements, with other line numbers. -/
theorem Statement.filterMap_blocks_renumber (r : Nat → Nat) (fs : List Fragment) :
    (blocks (fs.map (Fragment.renumber r))).filterMap Statement.ofBlock? =
      ((blocks fs).filterMap Statement.ofBlock?).map (Statement.renumber r) := by
  have hrenumber : Statement.ofBlock? ∘ List.map (Fragment.renumber r) =
      fun block => (Statement.ofBlock? block).map (Statement.renumber r) :=
    funext fun block => Statement.ofBlock?_map_renumber r block
  rw [blocks_map_renumber, List.filterMap_map, hrenumber, ← List.map_filterMap]

/-- **The split past a seam.** -/
theorem Statement.split_append {a : List Char} (h : Closed (fragments a)) (b : List Char) :
    Statement.split (a ++ '\n' :: b) =
      Statement.split a ++ (Statement.split b).map (Statement.down (a.count '\n' + 1)) := by
  rw [split, fragments_append, blocks_append h, List.filterMap_append]
  exact congrArg (split a ++ ·) (filterMap_blocks_renumber (· + (a.count '\n' + 1)) (fragments b))

end Codebook.Sql

namespace Codebook

open Sql

/-- What statements ask for does not depend on their file. -/
theorem Run.requests_map (d : Dialect) (file : String) (ss : List Statement) :
    requests d (ss.map fun s => (file, s)) = ss.filterMap fun s => (s.read d).toOption := by
  rw [requests, List.filterMap_map]
  rfl

namespace Recovery

/-- **Texts that are put together at a seam.**  If the last fragment of a text ends in a semicolon,
or there is none, the statements of another text below it are found as in that text alone, on the
lines below.  So the schema is the same as when the one text is followed and then the other,
whatever stands in the first one. -/
theorem text_seam {a : List Char} (h : Closed (fragments a)) (b : List Char) :
    Statement.split (a ++ '\n' :: b) =
        Statement.split a ++ (Statement.split b).map (Statement.down (a.count '\n' + 1)) ∧
      ∀ (r : Recovery) (file first second : String),
        (r.text file (a ++ '\n' :: b)).schema = ((r.text first a).text second b).schema := by
  have hsplit := Statement.split_append h b
  refine ⟨hsplit, fun r file first second => ?_⟩
  rw [text, text, text, schema_statements, schema_statements, schema_statements,
    dialect_statements, Run.requests_map, Run.requests_map, Run.requests_map, hsplit,
    List.filterMap_append, List.filterMap_map, Schema.applyAll_append]
  -- a reading does not depend on the line
  rfl

/-- A statement without a name, a comment that opens, and a carriage return before the seam. -/
def nameless : List Char := "CREATE TABLE\n(a int);\n/* open\r".toList

/-- A statement on two lines, without a semicolon. -/
def lastOfFile : List Char := "CREATE TABLE t\n(a int)".toList

/-- The statement of the second text stands on the fourth line. -/
theorem text_seam_nameless :
    Closed (fragments nameless) ∧
      Statement.split (nameless ++ '\n' :: lastOfFile) =
        Statement.split nameless ++ [⟨.createTable, "CREATE TABLE t (a int);", 4⟩] ∧
      (({} : Recovery).text "s.sql" (nameless ++ '\n' :: lastOfFile)).schema =
        ((({} : Recovery).text "s.sql" nameless).text "t.sql" lastOfFile).schema := by
  have hclosed : Closed (fragments nameless) := by decide
  have hlast : Statement.split lastOfFile = [⟨.createTable, "CREATE TABLE t (a int);", 1⟩] := by
    decide
  obtain ⟨hsplit, hschema⟩ := text_seam hclosed lastOfFile
  rw [hlast] at hsplit
  exact ⟨hclosed, hsplit, hschema {} "s.sql" "s.sql" "t.sql"⟩

end Recovery

end Codebook
