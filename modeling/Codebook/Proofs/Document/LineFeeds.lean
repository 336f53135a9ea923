import Codebook.Proofs.Document.Rows
import Mathlib.Algebra.BigOperators.Group.List.Basic
import Mathlib.Algebra.GroupWithZero.Nat

/-!
# The line feeds of a document

The rows of a document are one line each, whatever their texts hold, and the comment in the heading
of a table is flattened.  Names of groups, tags and names of tables are written as they are.  So a
document has as many line feeds as its layout asks for, and besides those of these texts.

What is here: `lineFeeds`; `layoutLines`, what the layout asks for; and `lineFeeds_markdown`.
-/

set_option autoImplicit false

namespace Codebook.Document

/-! ## Texts -/

/-- The number of line feeds in a text. -/
def lineFeeds (s : String) : Nat := s.toList.count '\n'

@[simp] theorem lineFeeds_append (s t : String) :
    lineFeeds (s ++ t) = lineFeeds s + lineFeeds t := by
  rw [lineFeeds, String.toList_append, List.count_append]
  rfl

theorem lineFeeds_eq_zero_iff {s : String} : lineFeeds s = 0 ↔ '\n' ∉ s.toList :=
  List.count_eq_zero

theorem lineFeeds_rows (rs : List String) : lineFeeds (rows rs) = (rs.map lineFeeds).sum := by
  induction rs with
  | nil => rfl
  | cons r rs ih =>
    rw [rows, List.foldr_cons, lineFeeds_append, List.map_cons, List.sum_cons]
    exact congrArg _ ih

theorem lineFeeds_tagLine (tags : List String) :
    lineFeeds (tagLine tags) = (tags.map lineFeeds).sum := by
  have hmark : lineFeeds "\x60" = 0 ∧ lineFeeds "\x60 · " = 0 := by decide
  induction tags with
  | nil => rfl
  | cons tag tags ih =>
    cases tags with
    | nil => simp [tagLine, hmark]
    | cons next tags => simp [tagLine, hmark] at ih ⊢; omega

/-! ## Blocks -/

theorem lineFeeds_text {b : Block} (h : ∀ line ∈ b.lines, '\n' ∉ line.toList) :
    lineFeeds b.text = lineFeeds b.head + b.lines.length + 1 := by
  have hline : ∀ line ∈ b.lines, (lineFeeds ∘ (· ++ "\n")) line = 1 := by
    intro line hline
    rw [Function.comp_apply, lineFeeds_append, lineFeeds_eq_zero_iff.2 (h line hline)]
    rfl
  rw [Block.text, lineFeeds_append, lineFeeds_append, lineFeeds_rows, List.map_map,
    List.map_congr_left hline]
  simp
  rfl

/-- The lines that the layout has for a group. -/
def groupLines (g : Group) : Nat := 5 + g.members.length + if g.tags.toList = [] then 0 else 2

/-- The lines that the layout has for a table. -/
def tableLines (t : Table) : Nat := 5 + t.columns.length

/-- The line feeds of what a group is called by, which is written as it is. -/
def headFeeds (g : Group) : Nat := lineFeeds g.name + (g.tags.toList.map lineFeeds).sum

theorem lineFeeds_groupBlock (g : Group) :
    lineFeeds (groupBlock g).text = groupLines g + headFeeds g := by
  have hrows : ∀ line ∈ (groupBlock g).lines, '\n' ∉ line.toList := by
    intro line hline
    obtain ⟨m, -, rfl⟩ := List.mem_map.1 hline
    exact (not_mem_rowLine _ _ _).1
  have hlength : (groupBlock g).lines.length = g.members.length := List.length_map _
  have hhead : lineFeeds (groupBlock g).head =
      4 + (if g.tags.toList = [] then 0 else 2) + headFeeds g := by
    show lineFeeds (groupHead g) = _
    have hbreak : lineFeeds "## " = 0 ∧ lineFeeds "\n\n" = 2 ∧ lineFeeds "**Tags:** " = 0 ∧
        lineFeeds "" = 0 ∧ lineFeeds "| Name | Value | Description |\n|---|---|---|\n" = 2 := by
      decide
    rw [groupHead, headFeeds, TagSet.isEmpty]
    cases htags : g.tags.toList with
    | nil => simp [hbreak]; omega
    | cons tag tags =>
      simp only [List.isEmpty_cons, Bool.false_eq_true, if_false, lineFeeds_append, hbreak,
        lineFeeds_tagLine, reduceCtorEq]
      omega
  rw [lineFeeds_text hrows, hlength, hhead, groupLines]
  omega

theorem lineFeeds_tableBlock (t : Table) :
    lineFeeds (tableBlock t).text = tableLines t + lineFeeds t.name := by
  have hrows : ∀ line ∈ (tableBlock t).lines, '\n' ∉ line.toList := by
    intro line hline
    obtain ⟨c, -, rfl⟩ := List.mem_map.1 hline
    exact (not_mem_rowLine _ _ _).1
  have hlength : (tableBlock t).lines.length = t.columns.length := List.length_map _
  have hhead : lineFeeds (tableBlock t).head = 4 + lineFeeds t.name := by
    show lineFeeds (tableHead t) = _
    have hbreak : lineFeeds "## " = 0 ∧ lineFeeds "\n\n" = 2 ∧ lineFeeds "（" = 0 ∧
        lineFeeds "）\n\n" = 2 ∧
        lineFeeds "| Column | Type | Description |\n|---|---|---|\n" = 2 := by decide
    have hflat (comment : String) : lineFeeds (String.ofList (flatten comment.toList)) = 0 := by
      rw [lineFeeds_eq_zero_iff, String.toList_ofList]
      exact (not_mem_flatten _).1
    rw [tableHead, tableHeading]
    split
    · simp only [lineFeeds_append, hbreak, hflat]
      omega
    · simp only [lineFeeds_append, hbreak]
      omega
  rw [lineFeeds_text hrows, hlength, hhead, tableLines]
  omega

/-! ## Documents -/

/-- The lines that the layout has for some groups and tables: two for the title of a section, if the
section is not left out, and those of its groups or tables. -/
def layoutLines (r : Registry) (c : Catalog) : Nat :=
  (if r.groups = [] then 0 else 2 + (r.groups.map groupLines).sum) +
    (if c.tables = [] then 0 else 2 + (c.tables.map tableLines).sum)

/-- The line feeds of a section, from those of its blocks. -/
theorem lineFeeds_titled {α : Type} {title : String} (htitle : lineFeeds title = 2) (xs : List α)
    {block : α → Block} {lines more : α → Nat}
    (hblock : ∀ x, lineFeeds (block x).text = lines x + more x) :
    lineFeeds (titled title (xs.map block)) =
      (if xs = [] then 0 else 2 + (xs.map lines).sum) + (xs.map more).sum := by
  have hsum : ((xs.map block).map Block.text).map lineFeeds = xs.map fun x => lines x + more x := by
    rw [List.map_map, List.map_map]
    exact List.map_congr_left fun x _ => hblock x
  rw [titled]
  cases xs with
  | nil => rfl
  | cons x xs =>
    rw [if_neg (by simp), if_neg (by simp), lineFeeds_append, lineFeeds_rows, hsum,
      List.sum_map_add, htitle, Nat.add_assoc]

/-- **A document has the line feeds of its layout, and those of the names of its groups, of their
tags, and of the names of its tables.** -/
theorem lineFeeds_markdown (r : Registry) (c : Catalog) :
    lineFeeds (markdown r c) = layoutLines r c +
      ((r.groups.map headFeeds).sum + (c.tables.map fun t => lineFeeds t.name).sum) := by
  have hempty : (c.sorted = []) = (c.tables = []) := by
    rw [← List.isEmpty_iff, ← List.isEmpty_iff, c.perm_sorted.isEmpty_eq]
  rw [markdown_eq, lineFeeds_append, lineFeeds_titled (by decide) _ lineFeeds_groupBlock,
    lineFeeds_titled (by decide) _ lineFeeds_tableBlock, (c.perm_sorted.map tableLines).sum_nat,
    (c.perm_sorted.map fun t => lineFeeds t.name).sum_nat, layoutLines]
  simp only [hempty]
  omega

end Codebook.Document
