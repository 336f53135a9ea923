import Codebook.Proofs.Schema.Held
import Codebook.Proofs.Schema.Undelivered

/-!
# Statements said twice

Saying a statement a second time changes nothing.  For most statements this is plain; a declaration
needs an argument, since it throws the columns away and hands their comments back one by one, each
to the column that its name leads to.  With names that occur twice, or that differ in case only, a
name may lead to another column than the one that bears it.  But a column only ever gets a comment
because some name leads to it, and then its own name leads to it as well: `Table.Findable`.  So each
comment comes back to where it was.

What is here: `Findable`, which holds of what is declared and delivered; `replaceColumns_bare`, that
such a table is the same after its columns have been declared again; `Schema.apply_apply`, one
request; and `Recovery.said_twice`.
-/

set_option autoImplicit false

namespace Codebook

open Sql

/-- A column without its comment, as it is declared. -/
def Column.bare (c : Column) : Column := { name := c.name, dataType := c.dataType }

namespace Table

/-! ## Comments that their columns' names lead to -/

/-- Each column that has a comment is found under its own name. -/
def Findable (t : Table) : Prop :=
  ∀ (i : Nat) (c : Column), t.columns[i]? = some c → c.comment.isSome →
    t.columnIndex? c.name = some i

/-- A column that is found under some name is found under its own name. -/
theorem columnIndex?_name {t : Table} {name : String} {i : Nat} {c : Column}
    (h : t.columnIndex? name = some i) (hc : t.columns[i]? = some c) :
    t.columnIndex? c.name = some i := by
  obtain ⟨hi, rfl⟩ := List.getElem?_eq_some_iff.1 hc
  rw [columnIndex?, Option.or_eq_some_iff] at h
  rcases h with h | ⟨-, h⟩
  · have hname := beq_iff_eq.1 (List.findIdx?_eq_some_iff_getElem.1 h).2.1
    rw [columnIndex?, hname, h, Option.some_or]
  · obtain ⟨_, hsame, hfirst⟩ := List.findIdx?_eq_some_iff_getElem.1 h
    -- an earlier column of its name would have been found before it
    have hexact : t.columns.findIdx? (·.name == t.columns[i].name) = some i := by
      refine List.findIdx?_eq_some_iff_getElem.2 ⟨hi, beq_self_eq_true _, fun j hj hname => ?_⟩
      exact hfirst j hj (by rwa [beq_iff_eq.1 hname])
    rw [columnIndex?, hexact, Option.some_or]

theorem columnNames_modify (t : Table) {f : Column → Column} (hf : ∀ c, (f c).name = c.name)
    (i : Nat) :
    columnNames { t with columns := t.columns.modify i f } = t.columnNames :=
  map_modify_of_forall_eq f Column.name hf _ _

namespace Findable

/-- What is declared without comments is findable. -/
theorem of_forall_none {t : Table} (h : ∀ c ∈ t.columns, c.comment = none) : t.Findable := by
  intro i c hc hsome
  rw [h c (List.mem_of_getElem? hc)] at hsome
  cases hsome

/-- A column that a name leads to may be changed in all but its name. -/
theorem update {t : Table} (h : t.Findable) (name : String) {f : Column → Column}
    (hf : ∀ c, (f c).name = c.name) : ((t.updateColumn? name f).getD t).Findable := by
  rw [updateColumn?]
  cases hindex : t.columnIndex? name with
  | none => exact h
  | some j =>
    intro i c hc hsome
    rw [Option.map_some, Option.getD_some] at hc ⊢
    rw [columnIndex?_congr (columnNames_modify t hf j)]
    obtain ⟨c', hc', rfl⟩ : ∃ c', t.columns[i]? = some c' ∧ (if j = i then f c' else c') = c := by
      simpa [List.getElem?_modify] using hc
    by_cases hji : j = i
    · subst hji
      rw [if_pos rfl, hf]
      exact columnIndex?_name hindex hc'
    · rw [if_neg hji] at hsome ⊢
      exact h i c' hc' hsome

theorem remark {t : Table} (h : t.Findable) (r : Remark) : (t.remark r).Findable :=
  h.update r.column fun _ => rfl

theorem remarks {t : Table} (h : t.Findable) (rs : List Remark) : (t.remarks rs).Findable := by
  induction rs generalizing t with
  | nil => exact h
  | cons r rs ih => exact ih (h.remark r)

theorem inherit {t : Table} (h : t.Findable) (old : Column) : (t.inherit old).Findable := by
  rw [Table.inherit]
  split
  · exact h
  · exact h.update old.name fun _ => rfl

theorem foldl_inherit {t : Table} (h : t.Findable) (olds : List Column) :
    (olds.foldl Table.inherit t).Findable := by
  induction olds generalizing t with
  | nil => exact h
  | cons old olds ih => exact ih (h.inherit old)

/-- Whatever the table was before, it is findable after a declaration. -/
theorem replaceColumns (t : Table) {columns : List Column}
    (hnew : ∀ c ∈ columns, c.comment = none) : (t.replaceColumns columns).Findable :=
  (of_forall_none (t := { t with columns := columns }) hnew).foldl_inherit t.columns

end Findable

/-! ## Declared again -/

/-- The earlier columns give their comments back in order: those before the next one have theirs
already, and those from there on have none yet. -/
theorem foldl_inherit_bare {t : Table} (h : t.Findable) {before after : List Column}
    (hcolumns : t.columns = before ++ after) :
    after.foldl inherit { t with columns := before ++ after.map Column.bare } = t := by
  induction after generalizing before with
  | nil => simp [← hcolumns]
  | cons c after ih =>
    have hindex : ∀ name, columnIndex? { t with columns := before ++ (c :: after).map Column.bare }
        name = t.columnIndex? name := by
      refine columnIndex?_congr ?_
      simp [columnNames, hcolumns, Column.bare]
    have hinherit : inherit { t with columns := before ++ (c :: after).map Column.bare } c =
        { t with columns := (before ++ [c]) ++ after.map Column.bare } := by
      rw [inherit]
      cases hc : c.comment with
      | none =>
        have hbare : c.bare = c := by rw [Column.bare, ← hc]
        simp [hbare]
      | some text =>
        have hfound : t.columnIndex? c.name = some before.length :=
          h before.length c (by simp [hcolumns]) (by simp [hc])
        have hgiven :
            ({ c.bare with comment := some (c.bare.comment.getD text) } : Column) = c := by
          rw [Column.bare, Option.getD_none, ← hc]
        simp only [updateColumn?, hindex, hfound, Option.map_some, Option.getD_some]
        rw [List.map_cons, modify_length_append, hgiven, List.append_assoc, List.singleton_append]
    rw [List.foldl_cons, hinherit]
    exact ih (by simp [hcolumns])

/-- **A findable table is the same after its columns have been declared again.** -/
theorem replaceColumns_bare {t : Table} (h : t.Findable) :
    t.replaceColumns (t.columns.map Column.bare) = t := by
  have hcolumns : t.columns = [] ++ t.columns := rfl
  exact foldl_inherit_bare h hcolumns

/-- The columns as they are declared. -/
theorem map_declared (t : Table) :
    (t.declared.map fun (name, dataType) => ({ name := name, dataType := dataType } : Column)) =
      t.columns.map Column.bare := by
  simp [declared, Column.bare]

/-! ## Remarks again -/

/-- A remark that is made twice is made once. -/
theorem remark_remark (t : Table) (r : Remark) : (t.remark r).remark r = t.remark r := by
  cases hindex : t.columnIndex? r.column with
  | none =>
    have hremark : t.remark r = t := Waiting.remark_of_isNone (by rw [hindex]; rfl)
    rw [hremark, hremark]
  | some i =>
    have hremark : ∀ u : Table, u.columnIndex? r.column = some i → u.remark r =
        { u with columns := u.columns.modify i fun c => { c with comment := r.text } } := by
      intro u hu
      rw [remark, updateColumn?, hu]
      rfl
    rw [hremark (t.remark r) (by rw [columnIndex?_remark, hindex]), hremark t hindex]
    simp [List.modify_modify_eq, Function.comp_def]

/-- Remarks on columns that a table does not have leave it as it is. -/
theorem remarks_of_forall_none {t : Table} {rs : List Remark}
    (h : ∀ r ∈ rs, t.columnIndex? r.column = none) : t.remarks rs = t := by
  induction rs with
  | nil => rfl
  | cons r rs ih =>
    have hr : t.remark r = t := Waiting.remark_of_isNone (by rw [h r List.mem_cons_self]; rfl)
    rw [remarks_cons, hr]
    exact ih fun s hs => h s (List.mem_cons_of_mem _ hs)

end Table

/-- A table that is put a second time is there already. -/
theorem Catalog.put_put (c : Catalog) (t : Table) : (c.put t).put t = c.put t :=
  put_put_of_name_eq c rfl

namespace Waiting

/-- A comment that waits already is let wait once. -/
theorem insert_insert (key : String × String) (text : String) (w : Waiting) :
    (w.insert key text).insert key text = w.insert key text := by
  simp only [insert_eq, insertByKey_insertByKey]

/-- What is held back twice is held back once. -/
theorem hold_hold (table : String) (w : Waiting) (r : Remark) :
    hold table (hold table w r) r = hold table w r := by
  unfold hold
  cases r.text with
  | some text => exact insert_insert (table, r.column) text w
  | none => simp [erase, List.filter_filter]

theorem isFor_remarks (t : Table) (rs : List Remark) : isFor (t.remarks rs) = isFor t := by
  funext entry
  simp [isFor]

/-- What is left after a delivery goes to no column of the table. -/
theorem columnIndex?_of_mem_remarksOn_filter {t : Table} {w : Waiting} {r : Remark}
    (h : r ∈ remarksOn t.name (w.filter fun entry => !isFor t entry)) :
    t.columnIndex? r.column = none := by
  obtain ⟨text, hmem⟩ := mem_of_mem_remarksOn h
  simpa [isFor] using (List.mem_filter.1 hmem).2

end Waiting

/-! ## Requests again -/

namespace Schema

/-- A declaration leaves a table that is the same when it is declared again. -/
theorem defineTable_defineTable (s : Schema) (table : String) (columns : List (String × String)) :
    (s.defineTable table columns).defineTable table columns = s.defineTable table columns := by
  obtain ⟨t, ht⟩ : ∃ t, (s.redeclared table columns).remarks (s.waiting.remarksOn table) = t :=
    ⟨_, rfl⟩
  have hname : t.name = table := by simp [← ht]
  have hdeclared : t.declared = columns := by simp [← ht]
  have hfor : Waiting.isFor (s.redeclared table columns) = Waiting.isFor t := by
    rw [← ht, Waiting.isFor_remarks]
  have hfindable : t.Findable := by
    rw [← ht]
    refine Table.Findable.remarks (Table.Findable.replaceColumns _ fun c hc => ?_) _
    obtain ⟨_, -, rfl⟩ := List.mem_map.1 hc
    rfl
  have hfirst : s.defineTable table columns =
      ⟨s.catalog.put t, s.waiting.filter fun entry => !Waiting.isFor t entry⟩ := by
    rw [defineTable_eq, ht, hfor]
  have hagain : redeclared ⟨s.catalog.put t, s.waiting.filter fun entry => !Waiting.isFor t entry⟩
      table columns = t := by
    rw [redeclared, ← hname, Catalog.getOrEmpty_put_self, ← hdeclared, Table.map_declared,
      Table.replaceColumns_bare hfindable]
  have hleft : t.remarks
      (Waiting.remarksOn table (s.waiting.filter fun entry => !Waiting.isFor t entry)) = t := by
    refine Table.remarks_of_forall_none fun r hr => ?_
    rw [← hname] at hr
    exact Waiting.columnIndex?_of_mem_remarksOn_filter hr
  rw [hfirst, defineTable_eq, hagain, hleft, Catalog.put_put, List.filter_filter]
  simp

theorem describeTable_describeTable (s : Schema) (table : String) (comment : Option String) :
    (s.describeTable table comment).describeTable table comment =
      s.describeTable table comment := by
  obtain ⟨t, ht⟩ : ∃ t, { s.catalog.getOrEmpty table with comment := comment } = t := ⟨_, rfl⟩
  have hname : t.name = table := by simp [← ht]
  have hcomment : { t with comment := comment } = t := by rw [← ht]
  have hfirst : s.describeTable table comment = ⟨s.catalog.put t, s.waiting⟩ := by
    rw [← ht]
    rfl
  have hagain : (s.catalog.put t).getOrEmpty table = t := by
    rw [← hname, Catalog.getOrEmpty_put_self]
  rw [hfirst, describeTable, Catalog.update, hagain, hcomment, Catalog.put_put]

theorem describeColumn_describeColumn (s : Schema) (table column : String)
    (comment : Option String) :
    (s.describeColumn table column comment).describeColumn table column comment =
      s.describeColumn table column comment := by
  obtain ⟨t, ht⟩ : ∃ t, (s.catalog.getOrEmpty table).remark ⟨column, comment⟩ = t := ⟨_, rfl⟩
  have hname : t.name = table := by simp [← ht]
  have hremark : t.remark ⟨column, comment⟩ = t := by rw [← ht, Table.remark_remark]
  have hindex : t.columnIndex? column = (s.catalog.getOrEmpty table).columnIndex? column := by
    rw [← ht, Table.columnIndex?_remark]
  have hagain : (s.catalog.put t).getOrEmpty table = t := by
    rw [← hname, Catalog.getOrEmpty_put_self]
  have hfirst : s.describeColumn table column comment = ⟨s.catalog.put t,
      if ((s.catalog.getOrEmpty table).columnIndex? column).isSome then s.waiting
      else Waiting.hold table s.waiting ⟨column, comment⟩⟩ := by
    rw [describeColumn_eq, ht]
    rfl
  rw [hfirst, describeColumn_eq, hagain, hremark, hindex, Catalog.put_put]
  congr 1
  split
  · rfl
  · exact Waiting.hold_hold table s.waiting ⟨column, comment⟩

/-- **A request that is made twice is made once.** -/
theorem apply_apply (s : Schema) (r : Reading) : (s.apply r).apply r = s.apply r := by
  cases r with
  | nothing => rfl
  | defineTable table columns => exact defineTable_defineTable s table columns
  | describeTable table comment => exact describeTable_describeTable s table comment
  | describeColumn table column comment =>
    exact describeColumn_describeColumn s table column comment

end Schema

/-! ## Statements again -/

namespace Recovery

theorem schema_statement_statement (r : Recovery) (file file' : String) (s : Statement) :
    ((r.statement file s).statement file' s).schema = (r.statement file s).schema := by
  cases hread : s.read r.dialect with
  | ok reading =>
    have hagain : s.read (r.statement file s).dialect = .ok reading := by
      rw [dialect_statement, hread]
    rw [statement_of_read file' hagain, statement_of_read file hread]
    exact Schema.apply_apply r.schema reading
  | error fault =>
    have hagain : s.read (r.statement file s).dialect = .error fault := by
      rw [dialect_statement, hread]
    rw [statement, hagain]

/-- What statements make of a schema depends on the schema and the dialect alone. -/
theorem schema_statements_congr {r r' : Recovery} (hschema : r.schema = r'.schema)
    (hdialect : r.dialect = r'.dialect) (file : String) (ss : List Statement) :
    (r.statements file ss).schema = (r'.statements file ss).schema := by
  rw [schema_statements, schema_statements, hschema, hdialect]

theorem schema_statements_replicate (r : Recovery) (file : String) (s : Statement) (n : Nat) :
    (r.statements file (List.replicate (n + 1) s)).schema = (r.statement file s).schema := by
  induction n generalizing r with
  | zero => rfl
  | succ n ih =>
    have hcons : r.statements file (List.replicate (n + 2) s) =
        (r.statement file s).statements file (List.replicate (n + 1) s) := rfl
    rw [hcons, ih, schema_statement_statement]

/-- **A statement that is said twice has been said once.**  In every state, to say a statement a
second time, in the same file or another, leaves the tables with their order and all their comments,
and the comments that wait with theirs.  So in any run of statements each may be said as often as
one likes. -/
theorem said_twice (r : Recovery) (file : String) :
    (∀ (file' : String) (s : Statement),
      ((r.statement file s).statement file' s).schema = (r.statement file s).schema) ∧
      ∀ (ss : List Statement) (more : Statement → Nat),
        (r.statements file (ss.flatMap fun s => List.replicate (more s + 1) s)).schema =
          (r.statements file ss).schema := by
  refine ⟨schema_statement_statement r file, fun ss more => ?_⟩
  induction ss generalizing r with
  | nil => rfl
  | cons s ss ih =>
    have hrepeated : r.statements file ((s :: ss).flatMap fun s => List.replicate (more s + 1) s) =
        (r.statements file (List.replicate (more s + 1) s)).statements file
          (ss.flatMap fun s => List.replicate (more s + 1) s) := by
      rw [List.flatMap_cons]
      exact List.foldl_append
    have honce : r.statements file (s :: ss) = (r.statement file s).statements file ss := rfl
    rw [hrepeated, ih, honce]
    refine schema_statements_congr (schema_statements_replicate r file s (more s)) ?_ file ss
    rw [dialect_statements, dialect_statement]

end Recovery

end Codebook
