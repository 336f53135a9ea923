import Codebook.Proofs.Schema.Run

/-!
# What waits has nowhere to go

A comment is only let wait where its column is not there, and a declaration that brings the column
takes the comment off the list.  So at any time the comments that wait are on known tables and on
columns that these do not have, in whatever letter case the columns are spelled.

It follows that a delivery takes nothing away.  A column gets a comment from the earlier columns of
the table only if one of them has its name, up to case; and then no comment waits for it.

What is here: `Schema.Undeliverable`, the condition on a waiting comment; `undeliverable_apply`,
that each request keeps it for all of them; and `Recovery.Reachable.undeliverable`.
-/

set_option autoImplicit false

namespace Codebook

open Sql

/-! ## Names up to case -/

theorem sameNameAsciiCase_iff (a b : String) :
    sameNameAsciiCase a b = true ↔ a.toList.map Char.toLower = b.toList.map Char.toLower := by
  rw [sameNameAsciiCase, beq_iff_eq]

namespace Table

/-- The column that is found has the name, up to case. -/
theorem sameName_of_columnIndex? {t : Table} {name : String} {i : Nat}
    (h : t.columnIndex? name = some i) :
    ∃ c, t.columns[i]? = some c ∧ sameNameAsciiCase c.name name = true := by
  rw [columnIndex?, Option.or_eq_some_iff] at h
  rcases h with h | ⟨-, h⟩
  all_goals
    obtain ⟨hi, hc, -⟩ := List.findIdx?_eq_some_iff_getElem.1 h
    refine ⟨t.columns[i], List.getElem?_eq_getElem hi, ?_⟩
  · rw [beq_iff_eq.1 hc, sameNameAsciiCase_iff]
  · exact hc

/-- A column is not found if and only if there is none of the name, in any letter case. -/
theorem columnIndex?_eq_none_iff (t : Table) (name : String) :
    t.columnIndex? name = none ↔ ∀ c ∈ t.columns, sameNameAsciiCase c.name name = false := by
  rw [columnIndex?, Option.or_eq_none_iff, List.findIdx?_eq_none_iff, List.findIdx?_eq_none_iff]
  refine ⟨fun h => h.2, fun h => ⟨fun c hc => ?_, h⟩⟩
  rw [beq_eq_false_iff_ne]
  intro hname
  have hsame := h c hc
  rw [← Bool.not_eq_true, sameNameAsciiCase_iff] at hsame
  exact hsame (by rw [hname])

/-- A column that has a comment after inheriting had one before, or has the name of the earlier
column. -/
theorem isSome_of_inherit {t : Table} {old c : Column} {i : Nat}
    (h : (t.inherit old).columns[i]? = some c) (hc : c.comment.isSome) :
    (∃ c', t.columns[i]? = some c' ∧ c'.comment.isSome) ∨ t.columnIndex? old.name = some i := by
  by_cases hi : t.columnIndex? old.name = some i
  · exact .inr hi
  · refine .inl ⟨c, ?_, hc⟩
    rw [inherit] at h
    split at h
    · exact h
    · rw [updateColumn?] at h
      cases hj : t.columnIndex? old.name with
      | none => rwa [hj] at h
      | some j =>
        rw [hj] at h
        have hne : j ≠ i := fun e => hi (by rw [hj, e])
        simpa [List.getElem?_modify, hne] using h

@[simp] theorem columnIndex?_inherit (t : Table) (old : Column) (name : String) :
    (t.inherit old).columnIndex? name = t.columnIndex? name :=
  columnIndex?_congr (by rw [columnNames_eq_map_declared, declared_inherit,
    ← columnNames_eq_map_declared]) name

theorem isSome_of_foldl_inherit {olds : List Column} {t : Table} {c : Column} {i : Nat}
    (h : (olds.foldl inherit t).columns[i]? = some c) (hc : c.comment.isSome) :
    (∃ c', t.columns[i]? = some c' ∧ c'.comment.isSome) ∨
      ∃ old ∈ olds, t.columnIndex? old.name = some i := by
  induction olds generalizing t with
  | nil => exact .inl ⟨c, h, hc⟩
  | cons old olds ih =>
    rcases ih h with ⟨c', hc', hsome⟩ | ⟨o, ho, hi⟩
    · exact (isSome_of_inherit hc' hsome).imp_right fun hi => ⟨old, List.mem_cons_self, hi⟩
    · rw [columnIndex?_inherit] at hi
      exact .inr ⟨o, List.mem_cons_of_mem _ ho, hi⟩

/-- A column that is declared without a comment has one only if an earlier column had its name. -/
theorem exists_of_replaceColumns {t : Table} {columns : List Column}
    (hnew : ∀ c ∈ columns, c.comment = none) {i : Nat} {c : Column}
    (h : (t.replaceColumns columns).columns[i]? = some c) (hc : c.comment.isSome) :
    ∃ old ∈ t.columns, (t.replaceColumns columns).columnIndex? old.name = some i := by
  have hindex : ∀ name, (t.replaceColumns columns).columnIndex? name =
      ({ t with columns := columns } : Table).columnIndex? name := by
    refine columnIndex?_congr ?_
    rw [columnNames_eq_map_declared, declared_replaceColumns]
    simp [columnNames]
  rw [replaceColumns] at h
  rcases isSome_of_foldl_inherit h hc with ⟨c', hc', hsome⟩ | ⟨old, hold, hi⟩
  · rw [hnew c' (List.mem_of_getElem? hc')] at hsome
    cases hsome
  · exact ⟨old, hold, (hindex old.name).trans hi⟩

end Table

/-! ## Waiting comments -/

namespace Waiting

theorem mem_of_mem_insert {key : String × String} {text : String} {w : Waiting}
    {entry : (String × String) × String} (h : entry ∈ w.insert key text) :
    entry = (key, text) ∨ entry ∈ w := by
  induction w with
  | nil => exact .inl (List.mem_singleton.1 h)
  | cons e w ih =>
    rw [insert] at h
    split at h
    · exact (List.mem_cons.1 h).imp_right (List.mem_cons_of_mem _)
    · rcases List.mem_cons.1 h with rfl | h
      · exact .inr List.mem_cons_self
      · exact (ih h).imp_right (List.mem_cons_of_mem _)

theorem mem_of_mem_remarksOn {table : String} {w : Waiting} {r : Remark}
    (h : r ∈ w.remarksOn table) : ∃ text, ((table, r.column), text) ∈ w := by
  obtain ⟨⟨⟨table', column⟩, text⟩, hentry, rfl⟩ := List.mem_map.1 h
  obtain ⟨hmem, htable⟩ := List.mem_filter.1 hentry
  obtain rfl : table' = table := by simpa using htable
  exact ⟨text, hmem⟩

end Waiting

namespace Schema

/-- A comment cannot be delivered: its table is known, and does not have its column. -/
def Undeliverable (s : Schema) (entry : (String × String) × String) : Prop :=
  ∃ t, s.catalog.get? entry.1.1 = some t ∧ t.columnIndex? entry.1.2 = none

/-- It cannot be delivered either after a table with the same columns was put. -/
theorem Undeliverable.put {s : Schema} {entry : (String × String) × String}
    (h : s.Undeliverable entry) {t : Table}
    (ht : ∀ name, t.columnIndex? name = (s.catalog.getOrEmpty t.name).columnIndex? name)
    (w : Waiting) : Undeliverable ⟨s.catalog.put t, w⟩ entry := by
  obtain ⟨u, hu, hnone⟩ := h
  by_cases hname : t.name = entry.1.1
  · refine ⟨t, by rw [← hname, Catalog.get?_put_self], ?_⟩
    rwa [ht, hname, Catalog.getOrEmpty_of_get? hu]
  · exact ⟨u, by rw [Catalog.get?_put_of_ne _ hname, hu], hnone⟩

/-- What waits cannot be delivered after a request, if this was so before it. -/
theorem undeliverable_apply {s : Schema} (h : ∀ entry ∈ s.waiting, s.Undeliverable entry)
    (r : Reading) : ∀ entry ∈ (s.apply r).waiting, (s.apply r).Undeliverable entry := by
  cases r with
  | nothing => exact h
  | defineTable table columns =>
    rw [apply, defineTable_eq]
    intro entry hentry
    obtain ⟨hmem, hfor⟩ := List.mem_filter.1 hentry
    by_cases hname : entry.1.1 = table
    · refine ⟨_, by rw [hname, Catalog.get?_put, if_pos (by simp)], ?_⟩
      simpa [Waiting.isFor, hname] using hfor
    · obtain ⟨u, hu, hnone⟩ := h entry hmem
      exact ⟨u, by rw [Catalog.get?_put_of_ne _ (by simpa using Ne.symm hname), hu], hnone⟩
  | describeTable table comment =>
    intro entry hentry
    exact (h entry hentry).put (fun name => by simp [Table.columnIndex?]) s.waiting
  | describeColumn table column comment =>
    rw [apply, describeColumn_eq]
    have hold : ∀ (w : Waiting), ∀ entry ∈ s.waiting,
        Undeliverable ⟨s.catalog.put ((s.catalog.getOrEmpty table).remark ⟨column, comment⟩), w⟩
          entry := by
      intro w entry hentry
      exact (h entry hentry).put (fun name => by simp) w
    intro entry hentry
    split at hentry
    · exact hold _ entry hentry
    · rename_i hindex
      cases comment with
      | none => exact hold _ entry (List.mem_filter.1 hentry).1
      | some text =>
        rcases Waiting.mem_of_mem_insert hentry with rfl | hentry
        · refine ⟨_, by rw [Catalog.get?_put, if_pos (by simp)], ?_⟩
          simpa using hindex
        · exact hold _ entry hentry

theorem undeliverable_applyAll {s : Schema} (h : ∀ entry ∈ s.waiting, s.Undeliverable entry)
    (rs : List Reading) :
    ∀ entry ∈ (s.applyAll rs).waiting, (s.applyAll rs).Undeliverable entry := by
  induction rs generalizing s with
  | nil => exact h
  | cons r rs ih => exact ih (undeliverable_apply h r)

/-- **A delivery takes no inherited comment away**, where what waits could not be delivered
before. -/
theorem getElem?_remarks_redeclared {s : Schema}
    (h : ∀ entry ∈ s.waiting, s.Undeliverable entry) {table : String}
    {columns : List (String × String)} {i : Nat} {c : Column}
    (hc : (s.redeclared table columns).columns[i]? = some c) (hsome : c.comment.isSome) :
    ((s.redeclared table columns).remarks (s.waiting.remarksOn table)).columns[i]? = some c := by
  obtain ⟨old, hold, hi⟩ := Table.exists_of_replaceColumns (by
    -- the columns that are declared come without comments
    intro c hc
    obtain ⟨_, -, rfl⟩ := List.mem_map.1 hc
    rfl) hc hsome
  have hnone : (s.redeclared table columns).remarksAt i (s.waiting.remarksOn table) = [] := by
    rw [Table.remarksAt, List.filter_eq_nil_iff]
    intro r hr hindex
    obtain ⟨text, hmem⟩ := Waiting.mem_of_mem_remarksOn hr
    obtain ⟨t, ht, htnone⟩ := h _ hmem
    rw [Catalog.getOrEmpty_of_get? ht] at hold
    -- the column has the name that the comment waits for, and that of an earlier column
    obtain ⟨c', hc', hwaits⟩ := Table.sameName_of_columnIndex? (beq_iff_eq.1 hindex)
    obtain ⟨c'', hc'', hearlier⟩ := Table.sameName_of_columnIndex? hi
    obtain rfl : c' = c'' := Option.some.inj (hc'.symm.trans hc'')
    have hdiffers := (Table.columnIndex?_eq_none_iff t r.column).1 htnone old hold
    rw [← Bool.not_eq_true, sameNameAsciiCase_iff] at hdiffers
    rw [sameNameAsciiCase_iff] at hwaits hearlier
    exact hdiffers (hearlier.symm.trans hwaits)
  rw [Table.getElem?_remarks, hnone, hc]
  rfl

end Schema

namespace Recovery

/-- **What waits has nowhere to go.**  In each reachable state a comment waits only on a column that
its table, which is known, does not have in any letter case.  So when a table is declared again the
comments that are delivered to it take the place of none that it inherits. -/
theorem Reachable.undeliverable {r : Recovery} (h : r.Reachable) :
    (∀ entry ∈ r.schema.waiting, ∃ t, r.schema.catalog.get? entry.1.1 = some t ∧
        ∀ c ∈ t.columns, c.name ≠ entry.1.2 ∧ sameNameAsciiCase c.name entry.1.2 = false) ∧
      ∀ (file : String) (s : Statement) (table : String) (columns : List (String × String)),
        s.read r.dialect = .ok (.defineTable table columns) →
          ∃ t, (r.statement file s).schema.catalog.get? table = some t ∧
            ∀ (i : Nat) (c : Column), (r.schema.redeclared table columns).columns[i]? = some c →
              c.comment.isSome → t.columns[i]? = some c := by
  have hinv : ∀ entry ∈ r.schema.waiting, r.schema.Undeliverable entry := by
    obtain ⟨l, hl⟩ := h.exists_run
    rw [hl, Run.schema_eq]
    exact Schema.undeliverable_applyAll (by simp) _
  refine ⟨fun entry hentry => ?_, fun file s table columns hread => ?_⟩
  · obtain ⟨t, ht, hnone⟩ := hinv entry hentry
    refine ⟨t, ht, fun c hc => ?_⟩
    have hsame := (Table.columnIndex?_eq_none_iff t entry.1.2).1 hnone c hc
    refine ⟨fun hname => ?_, hsame⟩
    rw [← Bool.not_eq_true, sameNameAsciiCase_iff, hname] at hsame
    exact hsame rfl
  · rw [statement_of_read file hread]
    refine ⟨(r.schema.redeclared table columns).remarks (r.schema.waiting.remarksOn table), ?_,
      fun i c hc hsome => Schema.getElem?_remarks_redeclared hinv hc hsome⟩
    simp only [Schema.apply, Schema.defineTable_eq, Catalog.get?_put, Table.name_remarks,
      Schema.name_redeclared, if_true]

/-- A table with one column, a comment on it, and one on a column that it does not have. -/
def commentAhead : Recovery :=
  ({} : Recovery).statements "s.sql"
    [⟨.createTable, "CREATE TABLE t (a int);", 1⟩, ⟨.commentOn, "COMMENT ON COLUMN t.a IS 'x';", 2⟩,
      ⟨.commentOn, "COMMENT ON COLUMN t.B IS 'y';", 3⟩]

theorem schema_commentAhead : commentAhead.schema =
    ({} : Schema).applyAll [.defineTable "t" [("a", "int")], .describeColumn "t" "a" (some "x"),
      .describeColumn "t" "B" (some "y")] := by
  rw [commentAhead, schema_statements]
  refine congrArg (Schema.applyAll {}) ?_
  simp only [Run.requests, List.map_cons, List.map_nil, List.filterMap_cons, List.filterMap_nil,
    Statement.read, String.reduceToList]
  decide

/-- The other column comes with the next declaration. -/
def widened : Statement := ⟨.createTable, "CREATE TABLE t (b int, A int);", 1⟩

/-- The declared column inherits its comment, in another letter case, and keeps it when the comment
on the other column is delivered. -/
theorem undeliverable_commentAhead :
    commentAhead.Reachable ∧ commentAhead.schema.waiting = [(("t", "B"), "y")] ∧
      (∃ t, commentAhead.schema.catalog.get? "t" = some t ∧
        ∀ c ∈ t.columns, c.name ≠ "B" ∧ sameNameAsciiCase c.name "B" = false) ∧
      ∃ t, (commentAhead.statement "u.sql" widened).schema.catalog.get? "t" = some t ∧
        t.columns[1]? = some ⟨"A", "int", some "x"⟩ := by
  have hreach : commentAhead.Reachable := .statements (.start .postgreSql) "s.sql" _
  have hwaiting : commentAhead.schema.waiting = [(("t", "B"), "y")] := by
    rw [schema_commentAhead]
    decide
  have hread : widened.read commentAhead.dialect =
      .ok (.defineTable "t" [("b", "int"), ("A", "int")]) := by
    rw [show commentAhead.dialect = .postgreSql from dialect_statements _ _ _]
    refine Statement.read_eq_ok ?_
    simp only [widened, Statement.read, String.reduceToList]
    decide
  have hinherited : (commentAhead.schema.redeclared "t" [("b", "int"), ("A", "int")]).columns[1]? =
      some ⟨"A", "int", some "x"⟩ := by
    rw [schema_commentAhead]
    decide
  obtain ⟨hwaits, hkept⟩ := Reachable.undeliverable hreach
  obtain ⟨t, ht, hcolumns⟩ := hkept "u.sql" widened "t" _ hread
  have hentry : (("t", "B"), "y") ∈ commentAhead.schema.waiting := by
    rw [hwaiting]
    exact List.mem_singleton_self _
  have hnowhere := hwaits (("t", "B"), "y") hentry
  have hcolumn := hcolumns 1 ⟨"A", "int", some "x"⟩ hinherited rfl
  exact ⟨hreach, hwaiting, hnowhere, t, ht, hcolumn⟩

end Recovery

end Codebook
