import Codebook.Proofs.Schema.Catalog
import Codebook.Proofs.Schema.Waiting

/-!
# Runs of statements

A run is a list of statements, each with the file that it comes from.  What a run makes of a schema
depends only on its `requests`, the readings of the statements that can be read; so statements about
schemas are proved for `Schema.applyAll` and carried over by `Run.schema_eq`.

What is here: the effect of each request, as remarks on the table that it is about
(`defineTable_eq`, `describeColumn_eq`) and on the catalog (`catalog_apply`); runs; and the states
that are `Reachable`, each of which has the schema of a run.
-/

set_option autoImplicit false

namespace Codebook

open Sql

namespace Schema

/-! ## One request -/

/-- The table with newly declared columns, which inherit the comments of the old ones. -/
def redeclared (s : Schema) (table : String) (columns : List (String × String)) : Table :=
  (s.catalog.getOrEmpty table).replaceColumns
    (columns.map fun (name, dataType) => { name := name, dataType := dataType })

@[simp] theorem name_redeclared (s : Schema) (table : String) (columns : List (String × String)) :
    (s.redeclared table columns).name = table := by simp [redeclared]

@[simp] theorem declared_redeclared (s : Schema) (table : String)
    (columns : List (String × String)) : (s.redeclared table columns).declared = columns := by
  simp [redeclared, Function.comp_def]

/-- A definition declares the columns and makes the remarks that wait for them. -/
theorem defineTable_eq (s : Schema) (table : String) (columns : List (String × String)) :
    s.defineTable table columns =
      { catalog := s.catalog.put
          ((s.redeclared table columns).remarks (s.waiting.remarksOn table))
        waiting := s.waiting.filter fun entry =>
          !Waiting.isFor (s.redeclared table columns) entry } := by
  simp [defineTable, Waiting.deliver_eq, redeclared]

theorem catalog_describeTable (s : Schema) (table : String) (comment : Option String) :
    (s.describeTable table comment).catalog =
      s.catalog.put { s.catalog.getOrEmpty table with comment := comment } := rfl

/-- A comment on a column is a remark on the table, also where it goes to no column.  It waits, or
takes back what waits, if and only if it goes to none. -/
theorem describeColumn_eq (s : Schema) (table column : String) (comment : Option String) :
    s.describeColumn table column comment =
      { catalog := s.catalog.put ((s.catalog.getOrEmpty table).remark ⟨column, comment⟩)
        waiting :=
          if ((s.catalog.getOrEmpty table).columnIndex? column).isSome then s.waiting
          else match comment with
            | some text => s.waiting.insert (table, column) text
            | none => s.waiting.erase (table, column) } := by
  unfold describeColumn
  simp only [Waiting.updateColumn?_eq _ ⟨column, comment⟩]
  cases hc : ((s.catalog.getOrEmpty table).columnIndex? column).isSome with
  | true => simp
  | false => cases comment <;> simp [Waiting.remark_of_isNone (r := ⟨column, _⟩) hc]

/-- A request puts a table of the name that it is about, or nothing. -/
theorem catalog_apply (s : Schema) (r : Reading) :
    (r.table? = none ∧ s.apply r = s) ∨
      ∃ t : Table, r.table? = some t.name ∧ (s.apply r).catalog = s.catalog.put t := by
  cases r with
  | nothing => exact .inl ⟨rfl, rfl⟩
  | defineTable table columns =>
    refine .inr ⟨_, ?_, congrArg Schema.catalog (defineTable_eq s table columns)⟩
    simp [Reading.table?]
  | describeTable table comment =>
    refine .inr ⟨_, ?_, catalog_describeTable s table comment⟩
    simp [Reading.table?]
  | describeColumn table column comment =>
    refine .inr ⟨_, ?_, congrArg Schema.catalog (describeColumn_eq s table column comment)⟩
    simp [Reading.table?]

theorem nodup_names_apply {s : Schema} (h : s.catalog.names.Nodup) (r : Reading) :
    (s.apply r).catalog.names.Nodup := by
  rcases catalog_apply s r with ⟨-, hs⟩ | ⟨t, -, hs⟩
  · rwa [hs]
  · rw [hs]
    exact Catalog.nodup_names_put h t

/-! ## Many requests -/

/-- The effect of some requests in order. -/
def applyAll (s : Schema) (rs : List Reading) : Schema := rs.foldl apply s

@[simp] theorem applyAll_nil (s : Schema) : s.applyAll [] = s := rfl

@[simp] theorem applyAll_cons (s : Schema) (r : Reading) (rs : List Reading) :
    s.applyAll (r :: rs) = (s.apply r).applyAll rs := rfl

theorem applyAll_append (s : Schema) (rs ss : List Reading) :
    s.applyAll (rs ++ ss) = (s.applyAll rs).applyAll ss := List.foldl_append

theorem nodup_names_applyAll {s : Schema} (h : s.catalog.names.Nodup) (rs : List Reading) :
    (s.applyAll rs).catalog.names.Nodup := by
  induction rs generalizing s with
  | nil => exact h
  | cons r rs ih => exact ih (nodup_names_apply h r)

/-- What holds of the names that requests are about holds of the names of the tables. -/
theorem forall_names_applyAll {p : String → Prop} {s : Schema}
    (hs : ∀ name ∈ s.catalog.names, p name) {rs : List Reading}
    (hrs : ∀ r ∈ rs, ∀ table, r.table? = some table → p table) :
    ∀ name ∈ (s.applyAll rs).catalog.names, p name := by
  induction rs generalizing s with
  | nil => exact hs
  | cons r rs ih =>
    refine ih (fun name hname => ?_) fun x hx => hrs x (List.mem_cons_of_mem _ hx)
    rcases catalog_apply s r with ⟨-, hsame⟩ | ⟨t, htable, hput⟩
    · exact hs name (hsame ▸ hname)
    · rw [hput] at hname
      by_cases hmem : t.name ∈ s.catalog.names
      · exact hs name (Catalog.names_put_of_mem hmem ▸ hname)
      · rw [Catalog.names_put_of_not_mem hmem, List.mem_append, List.mem_singleton] at hname
        rcases hname with hname | rfl
        · exact hs name hname
        · exact hrs r List.mem_cons_self _ htable

end Schema

/-! ## Runs -/

/-- Statements in the order in which they are met, each with its file. -/
abbrev Run := List (String × Statement)

namespace Run

/-- What the statements of a run ask for; those that cannot be read ask for nothing. -/
def requests (d : Dialect) (l : Run) : List Reading := l.filterMap fun x => (x.2.read d).toOption

/-- The schema that a run recovers from nothing. -/
def schema (d : Dialect) (l : Run) : Schema :=
  (l.foldl (fun r x => r.statement x.1 x.2) ({ dialect := d } : Recovery)).schema

@[simp] theorem requests_nil (d : Dialect) : requests d [] = [] := rfl

theorem requests_cons_of_ok {d : Dialect} {x : String × Statement} {reading : Reading}
    (h : x.2.read d = .ok reading) (l : Run) : requests d (x :: l) = reading :: requests d l := by
  rw [requests, List.filterMap_cons, h]
  rfl

theorem requests_cons_of_error {d : Dialect} {x : String × Statement} {fault : StatementFault}
    (h : x.2.read d = .error fault) (l : Run) : requests d (x :: l) = requests d l := by
  rw [requests, List.filterMap_cons, h]
  rfl

theorem requests_append (d : Dialect) (l m : Run) :
    requests d (l ++ m) = requests d l ++ requests d m := List.filterMap_append

/-- A run of statements that can all be read asks for their readings. -/
theorem requests_eq_of_map_read {d : Dialect} {l : Run} {readings : List Reading}
    (h : l.map (fun x => x.2.read d) = readings.map .ok) : requests d l = readings := by
  induction l generalizing readings with
  | nil => exact (List.map_eq_nil_iff.1 h.symm).symm
  | cons x l ih =>
    obtain ⟨reading, readings, rfl, hx, hl⟩ := List.map_eq_cons_iff.1 h.symm
    rw [requests_cons_of_ok hx.symm, ih hl.symm]

end Run

/-- The reading of a statement can be computed where it is compared as an option. -/
theorem Sql.Statement.read_eq_ok {d : Dialect} {s : Statement} {reading : Reading}
    (h : (s.read d).toOption = some reading) : s.read d = .ok reading := by
  cases hs : s.read d with
  | ok r => rw [hs] at h; exact congrArg _ (Option.some.inj h)
  | error fault => rw [hs] at h; cases h

namespace Recovery

@[simp] theorem dialect_statement (r : Recovery) (file : String) (s : Statement) :
    (r.statement file s).dialect = r.dialect := by
  rw [statement]
  split <;> rfl

/-- A statement that can be read has its effect and is not reported. -/
theorem statement_of_read {r : Recovery} {s : Statement} {reading : Reading} (file : String)
    (h : s.read r.dialect = .ok reading) :
    r.statement file s = { r with schema := r.schema.apply reading } := by
  rw [statement, h]

/-- The schema after a run is the schema before it with the requests of the run applied. -/
theorem schema_foldl_statement (r : Recovery) (l : Run) :
    (l.foldl (fun r x => r.statement x.1 x.2) r).schema =
      r.schema.applyAll (Run.requests r.dialect l) := by
  induction l generalizing r with
  | nil => rfl
  | cons x l ih =>
    rw [List.foldl_cons, ih, dialect_statement, statement]
    cases hx : x.2.read r.dialect with
    | ok reading => rw [Run.requests_cons_of_ok hx, Schema.applyAll_cons]
    | error fault => rw [Run.requests_cons_of_error hx]

/-- The statements of one file are a run. -/
theorem schema_statements (r : Recovery) (file : String) (ss : List Statement) :
    (r.statements file ss).schema =
      r.schema.applyAll (Run.requests r.dialect (ss.map fun s => (file, s))) := by
  rw [← schema_foldl_statement, List.foldl_map]
  rfl

@[simp] theorem dialect_statements (r : Recovery) (file : String) (ss : List Statement) :
    (r.statements file ss).dialect = r.dialect := by
  induction ss generalizing r with
  | nil => rfl
  | cons s ss ih => exact (ih _).trans (dialect_statement r file s)

end Recovery

theorem Run.schema_eq (d : Dialect) (l : Run) :
    schema d l = ({} : Schema).applyAll (requests d l) :=
  Recovery.schema_foldl_statement { dialect := d } l

/-! ## Reachable states -/

namespace Recovery

/-- The states that can be reached from the start, by whatever is followed or reported. -/
inductive Reachable : Recovery → Prop where
  | start (d : Dialect) : Reachable { dialect := d }
  | statement {r : Recovery} (h : Reachable r) (file : String) (s : Statement) :
      Reachable (r.statement file s)
  | text {r : Recovery} (h : Reachable r) (file : String) (cs : List Char) :
      Reachable (r.text file cs)
  | bytes {r : Recovery} (h : Reachable r) (file : String) (bs : List UInt8) :
      Reachable (r.bytes file bs)
  | report {r : Recovery} (h : Reachable r) (d : Diagnostic) : Reachable (r.report d)

theorem Reachable.statements {r : Recovery} (h : r.Reachable) (file : String)
    (ss : List Statement) : (r.statements file ss).Reachable := by
  induction ss generalizing r with
  | nil => exact h
  | cons s ss ih => exact ih (h.statement file s)

/-- A run can be continued with the statements of a file. -/
theorem exists_run_statements {r : Recovery} (h : ∃ l : Run, r.schema = l.schema r.dialect)
    (file : String) (ss : List Statement) :
    ∃ l : Run, (r.statements file ss).schema = l.schema (r.statements file ss).dialect := by
  obtain ⟨l, hl⟩ := h
  refine ⟨l ++ ss.map fun s => (file, s), ?_⟩
  rw [schema_statements, hl, dialect_statements, Run.schema_eq, Run.schema_eq, Run.requests_append,
    Schema.applyAll_append]

/-- What is reached is the schema of some run. -/
theorem Reachable.exists_run {r : Recovery} (h : r.Reachable) :
    ∃ l : Run, r.schema = l.schema r.dialect := by
  induction h with
  | start d => exact ⟨[], rfl⟩
  | statement h file s ih => exact exists_run_statements ih file [s]
  | text h file cs ih => exact exists_run_statements ih file (Statement.split cs)
  | bytes h file bs ih => exact exists_run_statements ih file _
  | report h d ih => exact ih

end Recovery

end Codebook
