import Codebook.Document.Markdown
import Codebook.Proofs.Schema.Catalog
import Mathlib.Data.List.Forall2

/-!
# Rows are read back

A row holds three texts between bars.  A text cannot open or close a cell, since each of its own
bars stands behind a backslash, and it cannot end the row, since its line ends have become spaces.
So what is in the cells is read back by rules that do not know how a row was made: cut it at the
bars that are not behind a backslash, drop what is outside of the outer bars, take one space off
each end of a cell, and make a bar of each backslash and bar.

What is here: `readRow?`, which goes by these rules; `rowLine`, a row without its line end, and
`readRow?_rowLine`; `Block`, a part of a document with one row on each line; and `rows_read_back`,
what the rows of a whole document say.
-/

set_option autoImplicit false

namespace Codebook.Document

/-! ## Reading a row -/

/-- Cuts a row at each bar that is not right behind a backslash; `escaped` tells whether a backslash
has been read last. -/
def cutBars (escaped : Bool) : List Char → List (List Char)
  | [] => [[]]
  | c :: cs =>
    if c = '|' ∧ escaped = false then [] :: cutBars false cs
    else
      match cutBars (c == '\\') cs with
      | [] => [[c]]
      | part :: parts => (c :: part) :: parts

/-- A text without the space at each of its ends. -/
def unpad? : List Char → Option (List Char)
  | ' ' :: cs => if cs.getLast? = some ' ' then some cs.dropLast else none
  | _ => none

/-- A text with a bar for each backslash and bar. -/
def unescapeBars : List Char → List Char
  | [] => []
  | '\\' :: '|' :: cs => '|' :: unescapeBars cs
  | c :: cs => c :: unescapeBars cs

/-- The texts in the cells of a row. -/
def readRow? (line : List Char) : Option (List (List Char)) :=
  match cutBars false line with
  | [] :: parts =>
    if parts.getLast? = some [] then
      parts.dropLast.mapM fun part => (unpad? part).map unescapeBars
    else none
  | _ => none

/-! ## Cells -/

section

variable {cs : List Char}

/-- A flattened text has no line ends. -/
theorem not_mem_flatten (cs : List Char) : '\n' ∉ flatten cs ∧ '\r' ∉ flatten cs := by
  fun_induction flatten cs with
  | case1 => simp
  | case2 cs ih => simpa using ih
  | case3 cs ih => simpa using ih
  | case4 cs _ ih => simpa using ih
  | case5 c cs _ hn hr ih =>
    have hn : '\n' ≠ c := fun h => hn h.symm
    have hr : '\r' ≠ c := fun h => hr h.symm
    simpa [hn, hr] using ih

/-- Escaping adds backslashes only. -/
theorem mem_of_mem_escapeBars {x : Char} (hx : x ≠ '\\') (h : x ∈ escapeBars cs) : x ∈ cs := by
  obtain ⟨c, hc, hmem⟩ := List.mem_flatMap.1 h
  split at hmem
  · rename_i hbar
    subst hbar
    rcases List.mem_cons.1 hmem with rfl | hmem
    · exact absurd rfl hx
    · exact List.mem_singleton.1 hmem ▸ hc
  · exact List.mem_singleton.1 hmem ▸ hc

@[simp] theorem escapeBars_nil : escapeBars [] = [] := rfl

theorem escapeBars_bar (cs : List Char) : escapeBars ('|' :: cs) = '\\' :: '|' :: escapeBars cs :=
  rfl

theorem escapeBars_cons {c : Char} (hc : c ≠ '|') (cs : List Char) :
    escapeBars (c :: cs) = c :: escapeBars cs := by simp [escapeBars, hc]

/-- An escaped text does not start with a bar. -/
theorem head?_escapeBars (cs : List Char) : (escapeBars cs).head? ≠ some '|' := by
  cases cs with
  | nil => simp
  | cons c cs =>
    by_cases hc : c = '|'
    · subst hc
      simp [escapeBars_bar]
    · simp [escapeBars_cons hc, hc]

/-- **What has been escaped is told from its written form.** -/
theorem unescapeBars_escapeBars (cs : List Char) : unescapeBars (escapeBars cs) = cs := by
  induction cs with
  | nil => rfl
  | cons c cs ih =>
    by_cases hc : c = '|'
    · subst hc
      rw [escapeBars_bar, unescapeBars, ih]
    · rw [escapeBars_cons hc, unescapeBars, ih]
      -- a backslash of the text is not taken for one of an escaped bar
      intro more _ hmore
      exact head?_escapeBars cs (by rw [hmore]; rfl)

theorem cutBars_cons {c : Char} (hc : c ≠ '|') (escaped : Bool) {part : List Char}
    {parts : List (List Char)} (h : cutBars (c == '\\') cs = part :: parts) :
    cutBars escaped (c :: cs) = (c :: part) :: parts := by
  rw [cutBars, if_neg fun h => hc h.1, h]

/-- An escaped text is not cut, whatever stands before it. -/
theorem cutBars_escapeBars (escaped : Bool) (cs rest : List Char) :
    cutBars escaped (escapeBars cs ++ ' ' :: '|' :: rest) =
      (escapeBars cs ++ [' ']) :: cutBars false rest := by
  induction cs generalizing escaped with
  | nil => exact cutBars_cons (by decide) escaped rfl
  | cons c cs ih =>
    by_cases hc : c = '|'
    · subst hc
      have hbar : cutBars true ('|' :: (escapeBars cs ++ ' ' :: '|' :: rest)) =
          ('|' :: (escapeBars cs ++ [' '])) :: cutBars false rest := by
        rw [cutBars, if_neg (by simp), ih]
      exact cutBars_cons (by decide) escaped hbar
    · rw [escapeBars_cons hc]
      exact cutBars_cons hc escaped (ih _)

/-- A cell is cut off with its padding. -/
theorem cutBars_cell (s : String) (rest : List Char) :
    cutBars false (' ' :: (cell s).toList ++ ' ' :: '|' :: rest) =
      (' ' :: (cell s).toList ++ [' ']) :: cutBars false rest := by
  rw [cell, String.toList_ofList]
  exact cutBars_cons (by decide) false (cutBars_escapeBars _ _ rest)

theorem unpad?_append (cs : List Char) : unpad? (' ' :: cs ++ [' ']) = some cs := by
  rw [List.cons_append, unpad?, if_pos (by simp), List.dropLast_concat]

theorem unescapeBars_cell (s : String) : unescapeBars (cell s).toList = flatten s.toList := by
  rw [cell, String.toList_ofList, unescapeBars_escapeBars]

/-- A cell stays on its line. -/
theorem not_mem_cell (s : String) : '\n' ∉ (cell s).toList ∧ '\r' ∉ (cell s).toList := by
  rw [cell, String.toList_ofList]
  obtain ⟨hn, hr⟩ := not_mem_flatten s.toList
  exact ⟨fun h => hn (mem_of_mem_escapeBars (by decide) h),
    fun h => hr (mem_of_mem_escapeBars (by decide) h)⟩

end

/-! ## Rows -/

/-- A row without its line end. -/
def rowLine (a b c : String) : String :=
  "| " ++ cell a ++ " | " ++ cell b ++ " | " ++ cell c ++ " |"

theorem row_eq (a b c : String) : row a b c = rowLine a b c ++ "\n" := by
  simp [row, rowLine, String.append_assoc]

theorem toList_rowLine (a b c : String) :
    (rowLine a b c).toList = '|' :: (' ' :: (cell a).toList ++ ' ' :: '|' ::
      (' ' :: (cell b).toList ++ ' ' :: '|' :: (' ' :: (cell c).toList ++ ' ' :: '|' :: []))) := by
  simp [rowLine]

/-- A row is one line. -/
theorem not_mem_rowLine (a b c : String) :
    '\n' ∉ (rowLine a b c).toList ∧ '\r' ∉ (rowLine a b c).toList := by
  obtain ⟨han, har⟩ := not_mem_cell a
  obtain ⟨hbn, hbr⟩ := not_mem_cell b
  obtain ⟨hcn, hcr⟩ := not_mem_cell c
  rw [toList_rowLine]
  constructor
  · simp [han, hbn, hcn]
  · simp [har, hbr, hcr]

/-- **The texts of a row are read back, flattened.** -/
theorem readRow?_rowLine (a b c : String) :
    readRow? (rowLine a b c).toList =
      some [flatten a.toList, flatten b.toList, flatten c.toList] := by
  have hcut : cutBars false (rowLine a b c).toList =
      [] :: [' ' :: (cell a).toList ++ [' '], ' ' :: (cell b).toList ++ [' '],
        ' ' :: (cell c).toList ++ [' '], []] := by
    rw [toList_rowLine, cutBars, if_pos ⟨rfl, rfl⟩, cutBars_cell, cutBars_cell, cutBars_cell]
    rfl
  have hcell (s : String) : (unpad? (' ' :: (cell s).toList ++ [' '])).map unescapeBars =
      some (flatten s.toList) := by
    rw [unpad?_append, Option.map_some, unescapeBars_cell]
  rw [readRow?, hcut]
  simp only [List.getLast?_cons_cons, List.getLast?_singleton, if_true, List.dropLast_cons_cons,
    List.dropLast_singleton, List.mapM_cons, List.mapM_nil, hcell]
  rfl

/-! ## Blocks -/

/-- A part of a document: a head, and rows, each on a line of its own. -/
structure Block where
  /-- The head. -/
  head : String
  /-- The lines. -/
  lines : List String

namespace Block

/-- The block as it is written. -/
def text (b : Block) : String := b.head ++ rows (b.lines.map (· ++ "\n")) ++ "\n"

/-- The lines of a block are rows, one for each entry, from which the texts of the entry are read
back, flattened. -/
structure Shows (b : Block) (entries : List (List String)) : Prop where
  /-- Every row is one line. -/
  single : ∀ line ∈ b.lines, '\n' ∉ line.toList ∧ '\r' ∉ line.toList
  /-- The cells of the rows are the texts. -/
  read : b.lines.map (fun line => readRow? line.toList) =
    entries.map fun texts => some (texts.map fun s => flatten s.toList)

/-- Rows of three texts show these texts. -/
theorem shows_map {α : Type} (head : String) (entries : List α) (a b c : α → String) :
    (Block.mk head (entries.map fun e => rowLine (a e) (b e) (c e))).Shows
      (entries.map fun e => [a e, b e, c e]) where
  single line hline := by
    obtain ⟨e, -, rfl⟩ := List.mem_map.1 hline
    exact not_mem_rowLine _ _ _
  read := by
    rw [List.map_map, List.map_map]
    refine List.map_congr_left fun e _ => ?_
    rw [Function.comp_apply, readRow?_rowLine]
    rfl

end Block

/-- What stands above the rows of a group. -/
def groupHead (g : Group) : String :=
  "## " ++ g.name ++ "\n\n" ++
    (if g.tags.isEmpty then "" else "**Tags:** " ++ tagLine g.tags.toList ++ "\n\n") ++
    "| Name | Value | Description |\n|---|---|---|\n"

/-- What a member shows. -/
def memberTexts (m : Member) : List String := [m.name, m.value.display, m.comment]

/-- The block of a group. -/
def groupBlock (g : Group) : Block where
  head := groupHead g
  lines := g.members.map fun m => rowLine m.name m.value.display m.comment

theorem group_eq (g : Group) : group g = (groupBlock g).text := by
  have hrows : g.members.map memberRow = (groupBlock g).lines.map (· ++ "\n") := by
    rw [groupBlock, List.map_map]
    exact List.map_congr_left fun m _ => row_eq _ _ _
  rw [group, hrows]
  rfl

/-- What stands above the rows of a table. -/
def tableHead (t : Table) : String :=
  tableHeading t ++ "| Column | Type | Description |\n|---|---|---|\n"

/-- The comment of a column as it is shown: a dash where there is nothing to say. -/
def shownComment : Option String → String
  | none => "-"
  | some comment => if comment = "" then "-" else comment

/-- What a column shows. -/
def columnTexts (c : Column) : List String := [c.name, c.dataType, shownComment c.comment]

theorem getD_shown (comment : Option String) : (shown comment).getD "-" = shownComment comment := by
  cases comment with
  | none => rfl
  | some comment => by_cases h : comment = "" <;> simp [shown, shownComment, h, Option.filter]

/-- The block of a table. -/
def tableBlock (t : Table) : Block where
  head := tableHead t
  lines := t.columns.map fun c => rowLine c.name c.dataType (shownComment c.comment)

theorem table_eq (t : Table) : table t = (tableBlock t).text := by
  have hrows : t.columns.map columnRow = (tableBlock t).lines.map (· ++ "\n") := by
    rw [tableBlock, List.map_map]
    refine List.map_congr_left fun c _ => ?_
    rw [columnRow, getD_shown]
    exact row_eq _ _ _
  rw [table, hrows]
  rfl

/-! ## Documents -/

/-- A section of a document: a title and some blocks, or nothing if there are none. -/
def titled (title : String) (blocks : List Block) : String :=
  if blocks.isEmpty then "" else title ++ rows (blocks.map Block.text)

theorem markdown_eq (r : Registry) (c : Catalog) :
    markdown r c = titled "# Enumerations\n\n" (r.groups.map groupBlock) ++
      titled "# Database Tables\n\n" (c.sorted.map tableBlock) := by
  have hgroups : r.groups.map group = (r.groups.map groupBlock).map Block.text := by
    rw [List.map_map]
    exact List.map_congr_left fun g _ => group_eq g
  have htables : c.sorted.map table = (c.sorted.map tableBlock).map Block.text := by
    rw [List.map_map]
    exact List.map_congr_left fun t _ => table_eq t
  rw [markdown, hgroups, htables, Registry.isEmpty, Catalog.isEmpty, ← c.perm_sorted.isEmpty_eq,
    titled, titled, List.isEmpty_map, List.isEmpty_map]

/-- **Every member and every column has a row, from which its texts are read back.**  A document is
the blocks of the groups, in order of discovery, and those of the tables, in ascending order of
their names, and nothing else but titles and heads.  The lines of a block are the rows of the
members or columns, in order; each is one line, and what is read from its cells is the name, the
displayed value and the comment of the member, or the name, the type and the comment of the column,
with a space for each line end. -/
theorem rows_read_back (r : Registry) (c : Catalog) :
    ∃ (tables : List Table) (groupBlocks tableBlocks : List Block),
      tables.Perm c.tables ∧ tables.Pairwise (fun a b => a.name ≤ b.name) ∧
      List.Forall₂ (fun g b => b.head = groupHead g ∧ b.Shows (g.members.map memberTexts))
        r.groups groupBlocks ∧
      List.Forall₂ (fun t b => b.head = tableHead t ∧ b.Shows (t.columns.map columnTexts))
        tables tableBlocks ∧
      markdown r c = titled "# Enumerations\n\n" groupBlocks ++
        titled "# Database Tables\n\n" tableBlocks := by
  refine ⟨c.sorted, r.groups.map groupBlock, c.sorted.map tableBlock, c.perm_sorted,
    c.pairwise_sorted, ?_, ?_, markdown_eq r c⟩
  · rw [List.forall₂_map_right_iff, List.forall₂_same]
    exact fun g _ => ⟨rfl, Block.shows_map _ _ _ _ _⟩
  · rw [List.forall₂_map_right_iff, List.forall₂_same]
    exact fun t _ => ⟨rfl, Block.shows_map _ _ _ _ _⟩

end Codebook.Document
