import Codebook.Proofs.Schema.Isolation

/-!
# The last word on a table

Of all the requests about a table only two kinds reach beyond the comments of its columns: a
declaration says which columns it has, and a comment on the table says what the table is.  Each
overrules the earlier ones of its kind, and neither touches what the other says.  All else that is
done to the table goes through `Table.remark`, which leaves both as they are.

What is here: `Reading.declaration?` and `Reading.tableComment?`, what a request says about a table
in either respect; `declared_apply` and `tableComment_apply`, one request; and `Run.last_word`.
-/

set_option autoImplicit false

namespace Codebook

open Sql

namespace Sql.Reading

/-- The columns that a request declares for a table, if it is a declaration of that table. -/
def declaration? (table : String) : Reading → Option (List (String × String))
  | defineTable name columns => if name = table then some columns else none
  | nothing | describeTable _ _ | describeColumn _ _ _ => none

/-- What a request says on a table as a whole, if it is a comment on that table; a comment that is
removed is none. -/
def tableComment? (table : String) : Reading → Option (Option String)
  | describeTable name comment => if name = table then some comment else none
  | nothing | defineTable _ _ | describeColumn _ _ _ => none

theorem declaration?_eq_some_iff {table : String} {columns : List (String × String)}
    {r : Reading} : r.declaration? table = some columns ↔ r = .defineTable table columns := by
  cases r <;> simp [declaration?]

theorem tableComment?_eq_some_iff {table : String} {comment : Option String} {r : Reading} :
    r.tableComment? table = some comment ↔ r = .describeTable table comment := by
  cases r <;> simp [tableComment?]

end Sql.Reading

namespace Schema

/-- The names and types of the columns of a table. -/
def declared (s : Schema) (table : String) : List (String × String) :=
  (s.catalog.getOrEmpty table).declared

/-- The comment on a table. -/
def tableComment (s : Schema) (table : String) : Option String :=
  (s.catalog.getOrEmpty table).comment

/-! ## One request -/

/-- A request declares the columns of a table anew, or leaves them as they are declared. -/
theorem declared_apply (s : Schema) (r : Reading) (table : String) :
    (s.apply r).declared table = (r.declaration? table).getD (s.declared table) := by
  cases r with
  | nothing => rfl
  | defineTable name columns =>
    rw [apply, defineTable_eq, declared, Catalog.getOrEmpty_put, Reading.declaration?]
    by_cases hname : name = table <;> simp [hname, declared]
  | describeTable name comment =>
    rw [declared, apply, catalog_describeTable, Catalog.getOrEmpty_put, Reading.declaration?]
    by_cases hname : name = table <;> simp [hname, declared, Table.declared]
  | describeColumn name column comment =>
    rw [apply, describeColumn_eq, declared, Catalog.getOrEmpty_put, Reading.declaration?]
    by_cases hname : name = table <;> simp [hname, declared]

/-- A request says something new on a table, or leaves the comment as it is. -/
theorem tableComment_apply (s : Schema) (r : Reading) (table : String) :
    (s.apply r).tableComment table = (r.tableComment? table).getD (s.tableComment table) := by
  cases r with
  | nothing => rfl
  | defineTable name columns =>
    rw [apply, defineTable_eq, tableComment, Catalog.getOrEmpty_put, Reading.tableComment?]
    by_cases hname : name = table <;> simp [hname, tableComment, redeclared]
  | describeTable name comment =>
    rw [tableComment, apply, catalog_describeTable, Catalog.getOrEmpty_put, Reading.tableComment?]
    by_cases hname : name = table <;> simp [hname, tableComment]
  | describeColumn name column comment =>
    rw [apply, describeColumn_eq, tableComment, Catalog.getOrEmpty_put, Reading.tableComment?]
    by_cases hname : name = table <;> simp [hname, tableComment]

/-- No request removes a table. -/
theorem exists_get?_apply {s : Schema} {table : String} {t : Table}
    (h : s.catalog.get? table = some t) (r : Reading) :
    ∃ t', (s.apply r).catalog.get? table = some t' := by
  rcases catalog_apply s r with ⟨-, hs⟩ | ⟨u, -, hs⟩
  · exact ⟨t, by rw [hs, h]⟩
  · rw [hs, Catalog.get?_put]
    split
    · exact ⟨u, rfl⟩
    · exact ⟨t, h⟩

/-! ## Many requests -/

/-- What overrules its earlier values is, after some steps, the last of them. -/
theorem foldl_getD {α β γ : Type} (step : β → α → β) (view : β → γ) (new : α → Option γ)
    (h : ∀ b a, view (step b a) = (new a).getD (view b)) (b : β) (as : List α) :
    view (as.foldl step b) = (as.filterMap new).getLast?.getD (view b) := by
  induction as generalizing b with
  | nil => rfl
  | cons a as ih =>
    rw [List.foldl_cons, ih, h, List.filterMap_cons]
    cases new a with
    | none => rfl
    | some c =>
      rw [List.getLast?_cons]
      rfl

theorem declared_applyAll (s : Schema) (rs : List Reading) (table : String) :
    (s.applyAll rs).declared table =
      (rs.filterMap (·.declaration? table)).getLast?.getD (s.declared table) :=
  foldl_getD apply (declared · table) _ (fun s r => declared_apply s r table) s rs

theorem tableComment_applyAll (s : Schema) (rs : List Reading) (table : String) :
    (s.applyAll rs).tableComment table =
      (rs.filterMap (·.tableComment? table)).getLast?.getD (s.tableComment table) :=
  foldl_getD apply (tableComment · table) _ (fun s r => tableComment_apply s r table) s rs

end Schema

namespace Run

theorem schema_append_singleton (d : Dialect) (l : Run) (x : String × Statement) :
    schema d (l ++ [x]) = match x.2.read d with
      | .ok reading => (schema d l).apply reading
      | .error _ => schema d l := by
  rw [schema_eq, requests_append, Schema.applyAll_append, ← schema_eq]
  cases hx : x.2.read d with
  | ok reading => rw [requests_cons_of_ok hx]; rfl
  | error fault => rw [requests_cons_of_error hx]; rfl

/-- **The last word on a table.**  After any run the columns of a table are those of its last
declaration, and none if it was not declared; its comment is the last one that was made on the
table, and none if there was none or it was removed.  No statement drops a table.  One that does not
declare it changes neither the names nor the types nor the order of its columns, and one that does
not comment on it leaves its comment. -/
theorem last_word (d : Dialect) (l : Run) :
    (∀ t ∈ (schema d l).catalog.tables,
      t.declared = ((requests d l).filterMap (·.declaration? t.name)).getLast?.getD [] ∧
        t.comment = ((requests d l).filterMap (·.tableComment? t.name)).getLast?.join) ∧
      ∀ (x : String × Statement) (table : String) (t : Table), definition d table l = some t →
        ∃ t', definition d table (l ++ [x]) = some t' ∧
          ((∀ columns, x.2.read d ≠ .ok (.defineTable table columns)) →
            t'.declared = t.declared) ∧
          ((∀ comment, x.2.read d ≠ .ok (.describeTable table comment)) →
            t'.comment = t.comment) := by
  constructor
  · intro t ht
    rw [schema_eq] at ht
    have hget := (Catalog.mem_tables_iff (Schema.nodup_names_applyAll (by simp) _) t).1 ht
    have hdeclared := Schema.declared_applyAll {} (requests d l) t.name
    have hcomment := Schema.tableComment_applyAll {} (requests d l) t.name
    rw [Schema.declared, Catalog.getOrEmpty_of_get? hget] at hdeclared
    rw [Schema.tableComment, Catalog.getOrEmpty_of_get? hget] at hcomment
    refine ⟨hdeclared, hcomment.trans ?_⟩
    cases ((requests d l).filterMap (·.tableComment? t.name)).getLast? <;> rfl
  · intro x table t ht
    rw [definition] at ht
    rw [definition, schema_append_singleton]
    cases hx : x.2.read d with
    | error fault => exact ⟨t, ht, fun _ => rfl, fun _ => rfl⟩
    | ok reading =>
      obtain ⟨t', ht'⟩ := Schema.exists_get?_apply ht reading
      have hdeclared := Schema.declared_apply (schema d l) reading table
      have hcomment := Schema.tableComment_apply (schema d l) reading table
      rw [Schema.declared, Schema.declared, Catalog.getOrEmpty_of_get? ht,
        Catalog.getOrEmpty_of_get? ht'] at hdeclared
      rw [Schema.tableComment, Schema.tableComment, Catalog.getOrEmpty_of_get? ht,
        Catalog.getOrEmpty_of_get? ht'] at hcomment
      refine ⟨t', ht', fun hno => ?_, fun hno => ?_⟩
      · have hnone : reading.declaration? table = none := by
          refine Option.eq_none_iff_forall_ne_some.2 fun columns hsome => hno columns ?_
          rw [Reading.declaration?_eq_some_iff.1 hsome]
        rw [hdeclared, hnone, Option.getD_none]
      · have hnone : reading.tableComment? table = none := by
          refine Option.eq_none_iff_forall_ne_some.2 fun comment hsome => hno comment ?_
          rw [Reading.tableComment?_eq_some_iff.1 hsome]
        rw [hcomment, hnone, Option.getD_none]

/-- A table that is declared twice, with comments on it and on a column between other things: one
statement that is not followed up, and one that cannot be read. -/
def saidTwice : Run :=
  [("s.sql", ⟨.commentOn, "COMMENT ON TABLE t IS 'x';", 1⟩),
    ("s.sql", ⟨.createTable, "CREATE TABLE t (a int);", 2⟩),
    ("s.sql", ⟨.commentOn, "COMMENT ON TABLE t IS 'y';", 3⟩),
    ("s.sql", ⟨.createTable, "CREATE TABLE t (b text, a int);", 4⟩),
    ("s.sql", ⟨.alterTable, "ALTER TABLE t DROP a;", 5⟩),
    ("s.sql", ⟨.createTable, "CREATE TABLE t;", 6⟩)]

/-- A comment on a column of the table, which comes next. -/
def onColumn : String × Statement := ("t.sql", ⟨.commentOn, "COMMENT ON COLUMN t.a IS 'z';", 1⟩)

/-- The second declaration and the second comment count, and the comment on the column leaves
both. -/
theorem last_word_saidTwice :
    (∃ t ∈ (schema .postgreSql saidTwice).catalog.tables,
      t.declared = [("b", "text"), ("a", "int")] ∧ t.comment = some "y") ∧
      ∃ t', definition .postgreSql "t" (saidTwice ++ [onColumn]) = some t' ∧
        t'.declared = [("b", "text"), ("a", "int")] ∧ t'.comment = some "y" := by
  have hrequests : requests .postgreSql saidTwice =
      [.describeTable "t" (some "x"), .defineTable "t" [("a", "int")],
        .describeTable "t" (some "y"), .defineTable "t" [("b", "text"), ("a", "int")],
        .nothing] := by
    simp only [requests, saidTwice, List.filterMap_cons, List.filterMap_nil, Statement.read,
      String.reduceToList]
    decide
  have hcolumn : onColumn.2.read .postgreSql = .ok (.describeColumn "t" "a" (some "z")) := by
    refine Statement.read_eq_ok ?_
    simp only [onColumn, Statement.read, String.reduceToList]
    decide
  obtain ⟨t, ht, hname⟩ : ∃ t ∈ (schema .postgreSql saidTwice).catalog.tables, t.name = "t" := by
    rw [schema_eq, hrequests]
    decide
  obtain ⟨hlast, hstep⟩ := last_word .postgreSql saidTwice
  have hwords := hlast t ht
  rw [hrequests, hname] at hwords
  have hget : definition .postgreSql "t" saidTwice = some t := by
    rw [schema_eq] at ht
    have hget := (Catalog.mem_tables_iff (Schema.nodup_names_applyAll (by simp) _) t).1 ht
    rwa [hname, ← schema_eq] at hget
  obtain ⟨t', ht', hdeclared, hcomment⟩ := hstep onColumn "t" t hget
  refine ⟨⟨t, ht, hwords⟩, t', ht', ?_, ?_⟩
  · rw [hdeclared fun columns => by rw [hcolumn]; simp, hwords.1]
    rfl
  · rw [hcomment fun comment => by rw [hcolumn]; simp, hwords.2]
    rfl

end Run

end Codebook
