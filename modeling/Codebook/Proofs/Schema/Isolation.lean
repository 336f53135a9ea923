import Codebook.Document.Data
import Codebook.Document.Markdown
import Codebook.Proofs.Schema.Run

/-!
# Tables do not interfere

All tables share one catalog, and all comments that wait share one list.  `Schema.only table` cuts
out of both what is about one table, and is a schema again.  A request about that table has the same
effect before and after the cut (`only_apply_of_about`), and any other request has none
(`only_apply_of_not_about`).  By induction the cut of a whole run is the run of the requests about
the table (`only_applyAll`).

The main statement is `Run.isolated`: the definition of a table after a run is what the statements
about it alone make, and so the documents do not depend on how the statements about different tables
are interleaved.
-/

set_option autoImplicit false

namespace Codebook

open Sql

namespace Schema

/-- What a schema holds about one table. -/
def only (table : String) (s : Schema) : Schema := ⟨s.catalog.only table, s.waiting.only table⟩

@[simp] theorem catalog_only (table : String) (s : Schema) :
    (s.only table).catalog = s.catalog.only table := rfl

@[simp] theorem waiting_only (table : String) (s : Schema) :
    (s.only table).waiting = s.waiting.only table := rfl

@[simp] theorem only_empty (table : String) : ({} : Schema).only table = {} := rfl

@[simp] theorem redeclared_only (s : Schema) (table : String) (columns : List (String × String)) :
    (s.only table).redeclared table columns = s.redeclared table columns := by
  simp [redeclared]

/-! ## One request -/

/-- A request about the table has the same effect on what is held about it. -/
theorem only_apply_of_about {r : Reading} {table : String} (h : r.table? = some table)
    (s : Schema) : (s.apply r).only table = (s.only table).apply r := by
  cases r with
  | nothing => cases h
  | defineTable name columns =>
    obtain rfl : name = table := by simpa [Reading.table?] using h
    rw [apply, apply, defineTable_eq, defineTable_eq, only, redeclared_only, waiting_only,
      catalog_only, Waiting.remarksOn_only, Catalog.only_put_of_eq _ (by simp)]
    simp [Waiting.only, List.filter_filter, Bool.and_comm]
  | describeTable name comment =>
    obtain rfl : name = table := by simpa [Reading.table?] using h
    simp only [apply, describeTable, Catalog.update]
    rw [only, Catalog.only_put_of_eq _ (by simp)]
    simp [only]
  | describeColumn name column comment =>
    obtain rfl : name = table := by simpa [Reading.table?] using h
    rw [apply, apply, describeColumn_eq, describeColumn_eq, only,
      Catalog.only_put_of_eq _ (by simp), catalog_only, Catalog.getOrEmpty_only_self, waiting_only]
    congr 1
    split
    · rfl
    · cases comment with
      | some text => exact Waiting.only_insert_self name column text s.waiting
      | none => exact Waiting.only_erase_self name column s.waiting

/-- Any other request has no effect on it. -/
theorem only_apply_of_not_about {r : Reading} {table : String} (h : r.table? ≠ some table)
    (s : Schema) : (s.apply r).only table = s.only table := by
  cases r with
  | nothing => rfl
  | defineTable name columns =>
    have hne : name ≠ table := by simpa [Reading.table?] using h
    rw [apply, defineTable_eq, only, only, Catalog.only_put_of_ne _ (by simpa using hne)]
    congr 1
    rw [Waiting.only, List.filter_filter]
    refine List.filter_congr fun entry _ => ?_
    -- an entry for the table waits for no column of another one
    by_cases he : entry.1.1 = table
    · simp [Waiting.isFor, he, Ne.symm hne]
    · simp [he]
  | describeTable name comment =>
    have hne : name ≠ table := by simpa [Reading.table?] using h
    simp only [apply, describeTable, Catalog.update]
    rw [only, only, Catalog.only_put_of_ne _ (by simpa using hne)]
  | describeColumn name column comment =>
    have hne : name ≠ table := by simpa [Reading.table?] using h
    rw [apply, describeColumn_eq, only, only, Catalog.only_put_of_ne _ (by simpa using hne)]
    congr 1
    split
    · rfl
    · cases comment with
      | some text => exact Waiting.only_insert_of_ne hne column text s.waiting
      | none => exact Waiting.only_erase_of_ne hne column s.waiting

/-! ## Many requests -/

/-- **What is held about a table comes from the requests about it.** -/
theorem only_applyAll (table : String) (s : Schema) (rs : List Reading) :
    (s.applyAll rs).only table =
      (s.only table).applyAll (rs.filter fun r => r.table? == some table) := by
  induction rs generalizing s with
  | nil => rfl
  | cons r rs ih =>
    rw [applyAll_cons, ih]
    by_cases h : r.table? = some table
    · rw [only_apply_of_about h, List.filter_cons_of_pos (by simpa using h), applyAll_cons]
    · rw [only_apply_of_not_about h, List.filter_cons_of_neg (by simpa using h)]

/-- The definition of a table comes from the requests about it. -/
theorem get?_applyAll (table : String) (rs : List Reading) :
    (({} : Schema).applyAll rs).catalog.get? table =
      (({} : Schema).applyAll (rs.filter fun r => r.table? == some table)).catalog.get? table := by
  have h := only_applyAll table {} rs
  rw [only_empty] at h
  rw [← h, catalog_only, Catalog.get?_only_self]

end Schema

/-! ## Documents -/

namespace Document

/-- The table section of a document shows the sorted tables and nothing else of a catalog. -/
theorem markdown_congr {c d : Catalog} (h : c.sorted = d.sorted) (r : Registry) :
    markdown r c = markdown r d := by
  have hempty : c.isEmpty = d.isEmpty := by
    rw [Catalog.isEmpty, Catalog.isEmpty, ← c.perm_sorted.isEmpty_eq, h, d.perm_sorted.isEmpty_eq]
  rw [markdown, markdown, h, hempty]

theorem toJson_congr {c d : Catalog} (h : c.sorted = d.sorted) (r : Registry) :
    toJson r c = toJson r d := by
  rw [toJson, toJson, h]

end Document

/-! ## Runs -/

/-- Whether a statement can be read and is about a table. -/
def Sql.Statement.isAbout (d : Dialect) (table : String) (s : Statement) : Bool :=
  match s.read d with
  | .ok reading => reading.table? == some table
  | .error _ => false

namespace Run

/-- The statements of a run that are about a table. -/
def about (d : Dialect) (table : String) (l : Run) : Run := l.filter fun x => x.2.isAbout d table

/-- They ask for what the run asks about the table. -/
theorem requests_about (d : Dialect) (table : String) (l : Run) :
    requests d (l.about d table) = (requests d l).filter fun r => r.table? == some table := by
  induction l with
  | nil => rfl
  | cons x l ih =>
    rw [about] at ih
    rw [about, List.filter_cons, Statement.isAbout]
    cases hx : x.2.read d with
    | error fault => rw [requests_cons_of_error hx, ← ih]; rfl
    | ok reading =>
      rw [requests_cons_of_ok hx, List.filter_cons, ← ih]
      by_cases hr : (reading.table? == some table) = true
      · simp only [hr, if_true]
        exact requests_cons_of_ok hx _
      · simp only [hr]
        rfl

/-- The definition of a table after a run. -/
def definition (d : Dialect) (table : String) (l : Run) : Option Table :=
  (schema d l).catalog.get? table

/-- **Tables do not interfere.**  The definition of a table after a run is the one after the
statements about it alone.  So two runs that ask for the same about every table, in whatever order
the tables take turns, show the same tables in both documents. -/
theorem isolated (d : Dialect) :
    (∀ (l : Run) (table : String), definition d table l = definition d table (l.about d table)) ∧
      ∀ l m : Run, (∀ table, requests d (l.about d table) = requests d (m.about d table)) →
        (schema d l).catalog.sorted = (schema d m).catalog.sorted ∧
          ∀ r : Registry,
            Document.markdown r (schema d l).catalog = Document.markdown r (schema d m).catalog ∧
              Document.toJson r (schema d l).catalog = Document.toJson r (schema d m).catalog := by
  have hdef : ∀ (l : Run) (table : String),
      definition d table l = definition d table (l.about d table) := by
    intro l table
    rw [definition, definition, schema_eq, schema_eq, Schema.get?_applyAll, requests_about]
  refine ⟨hdef, fun l m hlm => ?_⟩
  have hnodup : ∀ k : Run, (schema d k).catalog.names.Nodup := by
    intro k
    rw [schema_eq]
    exact Schema.nodup_names_applyAll (by simp) _
  have hsorted : (schema d l).catalog.sorted = (schema d m).catalog.sorted := by
    refine Catalog.sorted_eq_of_get?_eq (hnodup l) (hnodup m) fun table => ?_
    have hl := hdef l table
    have hm := hdef m table
    rw [definition, definition, schema_eq d (l.about d table), hlm table, ← schema_eq] at hl
    exact hl.trans hm.symm
  exact ⟨hsorted, fun r => ⟨Document.markdown_congr hsorted r, Document.toJson_congr hsorted r⟩⟩

/-- Two tables, each with a comment before its declaration. -/
def twoTables : Run :=
  [("s.sql", ⟨.commentOn, "COMMENT ON COLUMN t.a IS 'x';", 1⟩),
    ("s.sql", ⟨.createTable, "CREATE TABLE t (a int);", 2⟩),
    ("s.sql", ⟨.commentOn, "COMMENT ON COLUMN u.b IS 'y';", 3⟩),
    ("s.sql", ⟨.createTable, "CREATE TABLE u (b text);", 4⟩)]

/-- The same statements, where the tables take turns, the other one first. -/
def twoTablesInTurn : Run :=
  [("s.sql", ⟨.commentOn, "COMMENT ON COLUMN u.b IS 'y';", 1⟩),
    ("s.sql", ⟨.commentOn, "COMMENT ON COLUMN t.a IS 'x';", 2⟩),
    ("s.sql", ⟨.createTable, "CREATE TABLE u (b text);", 3⟩),
    ("s.sql", ⟨.createTable, "CREATE TABLE t (a int);", 4⟩)]

/-- The tables of the two runs stand in different orders in the catalogs, and are shown alike. -/
theorem isolated_twoTables :
    (∀ table, requests .postgreSql (twoTables.about .postgreSql table) =
        requests .postgreSql (twoTablesInTurn.about .postgreSql table)) ∧
      (schema .postgreSql twoTables).catalog.sorted =
        (schema .postgreSql twoTablesInTurn).catalog.sorted ∧
      ∀ r : Registry,
        Document.markdown r (schema .postgreSql twoTables).catalog =
            Document.markdown r (schema .postgreSql twoTablesInTurn).catalog ∧
          Document.toJson r (schema .postgreSql twoTables).catalog =
            Document.toJson r (schema .postgreSql twoTablesInTurn).catalog := by
  have htwo : requests .postgreSql twoTables =
      [.describeColumn "t" "a" (some "x"), .defineTable "t" [("a", "int")],
        .describeColumn "u" "b" (some "y"), .defineTable "u" [("b", "text")]] := by
    decide +kernel
  have hturn : requests .postgreSql twoTablesInTurn =
      [.describeColumn "u" "b" (some "y"), .describeColumn "t" "a" (some "x"),
        .defineTable "u" [("b", "text")], .defineTable "t" [("a", "int")]] := by
    decide +kernel
  have h : ∀ table, requests .postgreSql (twoTables.about .postgreSql table) =
      requests .postgreSql (twoTablesInTurn.about .postgreSql table) := by
    intro table
    rw [requests_about, requests_about, htwo, hturn]
    by_cases ht : "t" = table
    · subst ht; decide
    · by_cases hu : "u" = table
      · subst hu; decide
      · simp [Reading.table?, ht, hu]
  exact ⟨h, (isolated .postgreSql).2 twoTables twoTablesInTurn h⟩

end Run

end Codebook
