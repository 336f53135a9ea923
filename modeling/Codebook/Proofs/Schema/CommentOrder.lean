import Codebook.Proofs.Schema.Held
import Codebook.Proofs.Schema.Isolation

/-!
# Comments before and after the declaration

A comment on a column is meant to have the same effect wherever the declaration of the table stands.
It does not in general: comments that come first are held back, and are made in the order in which
their spellings came up.  The main statement, `Run.definition_of_any_position_iff`, tells exactly
when the place of the declaration is of no account: for each column the remarks on it have to be
`Settled`.  `Run.exists_definition_ne` shows a run in which they are not.
-/

set_option autoImplicit false

namespace Codebook

open Sql

namespace Table

/-- A table as it is declared, without comments. -/
def fresh (name : String) (columns : List (String × String)) : Table where
  name := name
  columns := columns.map fun (name, dataType) => { name := name, dataType := dataType }

/-- A column of a fresh table carries what was last said about it. -/
theorem getElem?_remarks_fresh (name : String) (columns : List (String × String))
    (rs : List Remark) (i : Nat) :
    ((fresh name columns).remarks rs).columns[i]? = columns[i]?.map fun c =>
      { name := c.1
        dataType := c.2
        comment := lastText ((fresh name columns).remarksAt i rs) } := by
  have hfresh : (fresh name columns).columns[i]? =
      columns[i]?.map fun c => { name := c.1, dataType := c.2 } := by
    rw [fresh, List.getElem?_map]
  rw [getElem?_remarks, hfresh, Option.map_map, lastText]
  cases ((fresh name columns).remarksAt i rs).getLast? <;> rfl

/-- Two lists of remarks make the same of a fresh table if and only if they have the same last word
on each column. -/
theorem remarks_fresh_eq_iff (name : String) (columns : List (String × String))
    (rs ss : List Remark) :
    (fresh name columns).remarks rs = (fresh name columns).remarks ss ↔
      ∀ i < columns.length, lastText ((fresh name columns).remarksAt i rs) =
        lastText ((fresh name columns).remarksAt i ss) := by
  constructor
  · intro h i hi
    have hcolumn := getElem?_remarks_fresh name columns rs i
    rw [h, getElem?_remarks_fresh, List.getElem?_eq_getElem hi] at hcolumn
    simp only [Option.map_some, Option.some.injEq, Column.mk.injEq, true_and] at hcolumn
    exact hcolumn.symm
  · intro h
    have hcolumns : ((fresh name columns).remarks rs).columns =
        ((fresh name columns).remarks ss).columns := by
      apply List.ext_getElem?
      intro i
      rw [getElem?_remarks_fresh, getElem?_remarks_fresh]
      by_cases hi : i < columns.length
      · simp only [h i hi]
      · rw [List.getElem?_eq_none (by omega)]
        rfl
    have hname := (name_remarks (fresh name columns) rs).trans
      (name_remarks (fresh name columns) ss).symm
    have hcomment := (comment_remarks (fresh name columns) rs).trans
      (comment_remarks (fresh name columns) ss).symm
    cases hr : (fresh name columns).remarks rs
    cases hs : (fresh name columns).remarks ss
    simp_all

end Table

namespace Schema

/-! ## Before the declaration -/

/-- The request for a remark on a table. -/
def remarkRequest (table : String) (r : Remark) : Reading := .describeColumn table r.column r.text

/-- Remarks on a table without columns are held back. -/
theorem applyAll_remarks_before (table : String) (rs : List Remark) (s : Schema)
    (hs : s.catalog.getOrEmpty table = { name := table }) :
    (s.applyAll (rs.map (remarkRequest table))).catalog.getOrEmpty table = { name := table } ∧
      (s.applyAll (rs.map (remarkRequest table))).waiting =
        rs.foldl (Waiting.hold table) s.waiting := by
  induction rs generalizing s with
  | nil => exact ⟨hs, rfl⟩
  | cons r rs ih =>
    have hindex : ({ name := table } : Table).columnIndex? r.column = none :=
      Table.columnIndex?_of_columns_nil rfl _
    have hstep : s.apply (remarkRequest table r) =
        ⟨s.catalog.put { name := table }, Waiting.hold table s.waiting r⟩ := by
      rw [remarkRequest, apply, describeColumn_eq, hs, hindex,
        Waiting.remark_of_isNone (by rw [hindex]; rfl)]
      rfl
    rw [List.map_cons, applyAll_cons, hstep, List.foldl_cons]
    exact ih _ (Catalog.getOrEmpty_put_self s.catalog { name := table })

/-! ## After the declaration -/

/-- Remarks on a table that is there are made at once. -/
theorem applyAll_remarks_after (table : String) (rs : List Remark) (s : Schema) {t : Table}
    (hs : s.catalog.get? table = some t) :
    (s.applyAll (rs.map (remarkRequest table))).catalog.get? table = some (t.remarks rs) := by
  induction rs generalizing s t with
  | nil => exact hs
  | cons r rs ih =>
    rw [List.map_cons, applyAll_cons]
    refine ih _ ?_
    have hname : (t.remark r).name = table := by rw [Table.name_remark, Catalog.name_of_get? hs]
    rw [remarkRequest, apply, describeColumn_eq, Catalog.getOrEmpty_of_get? hs, Catalog.get?_put,
      if_pos hname]

/-- The definition of a table after remarks, its declaration, and further remarks. -/
theorem get?_applyAll_remarks_around (table : String) (columns : List (String × String))
    (before after : List Remark) :
    (({} : Schema).applyAll (before.map (remarkRequest table) ++
      .defineTable table columns :: after.map (remarkRequest table))).catalog.get? table =
      some ((Table.fresh table columns).remarks
        (Waiting.remarksOn table (Waiting.held table before) ++ after)) := by
  obtain ⟨hempty, hwaiting⟩ := applyAll_remarks_before table before {} rfl
  rw [applyAll_append, applyAll_cons, Table.remarks_append]
  generalize ({} : Schema).applyAll (before.map (remarkRequest table)) = s at hempty hwaiting
  have hfresh : s.redeclared table columns = Table.fresh table columns := by
    rw [redeclared, hempty, Table.replaceColumns_of_columns_nil rfl]
    rfl
  refine applyAll_remarks_after table after _ ?_
  rw [apply, defineTable_eq, hfresh, hwaiting, Catalog.get?_put]
  exact if_pos (by simp [Table.fresh])

end Schema

namespace Run

/-- The definition after a run in which the declaration stands among comments on columns. -/
theorem definition_around {d : Dialect} {table : String} {columns : List (String × String)}
    {create : String × Statement} (hcreate : create.2.read d = .ok (.defineTable table columns))
    (before after : Run) (rs ss : List Remark)
    (hbefore : requests d before = rs.map (Schema.remarkRequest table))
    (hafter : requests d after = ss.map (Schema.remarkRequest table)) :
    definition d table (before ++ create :: after) = some ((Table.fresh table columns).remarks
      (Waiting.remarksOn table (Waiting.held table rs) ++ ss)) := by
  rw [definition, schema_eq, requests_append, requests_cons_of_ok hcreate, hbefore, hafter,
    Schema.get?_applyAll_remarks_around]

/-- **When the place of the declaration is of no account.**  Some comments on columns of a table are
made in a run that also declares the table once.  If the declaration comes first each column carries
what was said last about it.  Wherever else it comes the definition is the same, if and only if for
each column, among the comments on it that are not taken back in their own spelling, the spelling
that came up last has the last word. -/
theorem definition_of_any_position_iff (d : Dialect) (table : String) (comments : Run)
    (rs : List Remark) (create : String × Statement) (columns : List (String × String))
    (hcomments : comments.map (fun x => x.2.read d) =
      rs.map fun r => .ok (.describeColumn table r.column r.text))
    (hcreate : create.2.read d = .ok (.defineTable table columns)) :
    definition d table (create :: comments) = some ((Table.fresh table columns).remarks rs) ∧
      ((∀ before after before' after' : Run,
          comments = before ++ after → comments = before' ++ after' →
            definition d table (before ++ create :: after) =
              definition d table (before' ++ create :: after')) ↔
        ∀ i < columns.length, Settled ((Table.fresh table columns).remarksAt i rs)) := by
  have hrequests : requests d comments = rs.map (Schema.remarkRequest table) :=
    requests_eq_of_map_read (by simpa [Schema.remarkRequest, Function.comp_def] using hcomments)
  have hfirst : definition d table (create :: comments) =
      some ((Table.fresh table columns).remarks rs) :=
    definition_around hcreate [] comments [] rs rfl hrequests
  refine ⟨hfirst, ?_, ?_⟩
  · intro h i hi
    have hlast := definition_around hcreate comments [] rs [] hrequests rfl
    rw [h comments [] [] comments (by simp) rfl, List.nil_append, hfirst, Option.some.injEq,
      List.append_nil, Table.remarks_fresh_eq_iff] at hlast
    rw [← Waiting.lastText_held_iff table, ← Waiting.remarksAt_remarksOn_held]
    exact (hlast i hi).symm
  · intro h
    have hany : ∀ before after : Run, comments = before ++ after →
        definition d table (before ++ create :: after) =
          some ((Table.fresh table columns).remarks rs) := by
      intro before after hsplit
      rw [hsplit, requests_append] at hrequests
      obtain ⟨bs, as, rfl, hbefore, hafter⟩ := List.map_eq_append_iff.1 hrequests.symm
      rw [definition_around hcreate before after bs as hbefore.symm hafter.symm,
        Option.some.injEq, Table.remarks_fresh_eq_iff]
      intro i hi
      rw [Table.remarksAt_append, Table.remarksAt_append,
        Waiting.remarksAt_remarksOn_held]
      by_cases has : (Table.fresh table columns).remarksAt i as = []
      · have hsettled := h i hi
        rw [Table.remarksAt_append, has, List.append_nil] at hsettled
        rw [has, List.append_nil, List.append_nil]
        exact (Waiting.lastText_held_iff table _).2 hsettled
      · rw [lastText_append_of_ne_nil _ has, lastText_append_of_ne_nil _ has]
    intro before after before' after' hsplit hsplit'
    rw [hany before after hsplit, hany before' after' hsplit']

/-- Three comments on a column in two spellings, of which the first has the last word. -/
def spelledTwice : Run :=
  [("s.sql", ⟨.commentOn, "COMMENT ON COLUMN t.A IS 'x';", 1⟩),
    ("s.sql", ⟨.commentOn, "COMMENT ON COLUMN t.a IS 'y';", 2⟩),
    ("s.sql", ⟨.commentOn, "COMMENT ON COLUMN t.A IS 'z';", 3⟩)]

/-- The remarks that they make. -/
def spelledTwiceRemarks : List Remark := [⟨"A", some "x"⟩, ⟨"a", some "y"⟩, ⟨"A", some "z"⟩]

/-- The declaration of the column. -/
def oneColumn : String × Statement := ("s.sql", ⟨.createTable, "CREATE TABLE t (a int);", 4⟩)

theorem read_spelledTwice : spelledTwice.map (fun x => x.2.read .postgreSql) =
    spelledTwiceRemarks.map fun r => .ok (.describeColumn "t" r.column r.text) := by
  have hx : (⟨.commentOn, "COMMENT ON COLUMN t.A IS 'x';", 1⟩ : Statement).read .postgreSql =
      .ok (.describeColumn "t" "A" (some "x")) := by
    refine Statement.read_eq_ok ?_
    simp only [Statement.read, String.reduceToList]
    decide
  have hy : (⟨.commentOn, "COMMENT ON COLUMN t.a IS 'y';", 2⟩ : Statement).read .postgreSql =
      .ok (.describeColumn "t" "a" (some "y")) := by
    refine Statement.read_eq_ok ?_
    simp only [Statement.read, String.reduceToList]
    decide
  have hz : (⟨.commentOn, "COMMENT ON COLUMN t.A IS 'z';", 3⟩ : Statement).read .postgreSql =
      .ok (.describeColumn "t" "A" (some "z")) := by
    refine Statement.read_eq_ok ?_
    simp only [Statement.read, String.reduceToList]
    decide
  rw [spelledTwice, spelledTwiceRemarks]
  simp only [List.map_cons, List.map_nil, hx, hy, hz]

theorem read_oneColumn :
    oneColumn.2.read .postgreSql = .ok (.defineTable "t" [("a", "int")]) := by
  refine Statement.read_eq_ok ?_
  simp only [oneColumn, Statement.read, String.reduceToList]
  decide

/-- The condition fails for them: the column has `z` if its declaration comes first. -/
theorem definition_of_any_position_iff_spelledTwice :
    spelledTwice.map (fun x => x.2.read .postgreSql) =
        spelledTwiceRemarks.map (fun r => .ok (.describeColumn "t" r.column r.text)) ∧
    oneColumn.2.read .postgreSql = .ok (.defineTable "t" [("a", "int")]) ∧
    definition .postgreSql "t" (oneColumn :: spelledTwice) =
        some ((Table.fresh "t" [("a", "int")]).remarks spelledTwiceRemarks) ∧
      ((∀ before after before' after' : Run,
          spelledTwice = before ++ after → spelledTwice = before' ++ after' →
            definition .postgreSql "t" (before ++ oneColumn :: after) =
              definition .postgreSql "t" (before' ++ oneColumn :: after')) ↔
        ∀ i < [("a", "int")].length,
          Settled ((Table.fresh "t" [("a", "int")]).remarksAt i spelledTwiceRemarks)) :=
  ⟨read_spelledTwice, read_oneColumn,
    definition_of_any_position_iff .postgreSql "t" spelledTwice spelledTwiceRemarks oneColumn _
      read_spelledTwice read_oneColumn⟩

/-- **The place of the declaration is of account.**  If the declaration follows these comments, the
spelling that came up last is heard last, and the column has `y`. -/
theorem exists_definition_ne : ¬ ∀ (d : Dialect) (table : String) (comments : Run)
    (rs : List Remark) (create : String × Statement) (columns : List (String × String)),
    comments.map (fun x => x.2.read d) =
        rs.map (fun r => .ok (.describeColumn table r.column r.text)) →
      create.2.read d = .ok (.defineTable table columns) →
        ∀ before after before' after' : Run,
          comments = before ++ after → comments = before' ++ after' →
            definition d table (before ++ create :: after) =
              definition d table (before' ++ create :: after') := by
  intro h
  have heq := h .postgreSql "t" spelledTwice _ oneColumn _ read_spelledTwice read_oneColumn
    spelledTwice [] [] spelledTwice (by simp) rfl
  have hne : definition .postgreSql "t" (spelledTwice ++ oneColumn :: []) ≠
      definition .postgreSql "t" ([] ++ oneColumn :: spelledTwice) := by decide +kernel
  exact hne heq

end Run

end Codebook
