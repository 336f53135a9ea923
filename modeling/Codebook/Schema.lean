import Codebook.Schema.Catalog
import Codebook.Sql.Reading
import Codebook.Sql.Statement.Split
import Codebook.Text.Decode

/-!
# Schemas

A schema is put together from the requests of statements, in the order in which they are met.  The
comment on a column may come before the column: it waits, under the names of the table and the
column as they were written, until a definition of the table brings the column.

What is here: `Schema.apply`, the effect of one request; and `Recovery`, which follows the
statements of files and keeps what is said about those that cannot be read.
-/

set_option autoImplicit false

namespace Codebook

open Sql

/-! ## Waiting comments -/

/-- The comments on columns that are not known yet: table, column, and text, in the order in which
the columns were first named. -/
abbrev Waiting := List ((String × String) × String)

namespace Waiting

/-- Lets a comment wait, in the place of another one for the same column or at the end. -/
def insert (key : String × String) (text : String) : Waiting → Waiting
  | [] => [(key, text)]
  | entry :: w => if entry.1 = key then (key, text) :: w else entry :: insert key text w

/-- Gives up a waiting comment. -/
def erase (key : String × String) (w : Waiting) : Waiting := w.filter fun entry => entry.1 ≠ key

/-- Gives the comments that wait for columns of a table to the columns that it has; the others keep
waiting. -/
def deliver (t : Table) : Waiting → Table × Waiting
  | [] => (t, [])
  | ((table, column), text) :: w =>
    if table = t.name then
      match t.updateColumn? column fun c => { c with comment := some text } with
      | some t => deliver t w
      | none =>
        let (t, kept) := deliver t w
        (t, ((table, column), text) :: kept)
    else
      let (t, kept) := deliver t w
      (t, ((table, column), text) :: kept)

end Waiting

/-! ## Effects -/

/-- The tables that have been found, and the comments that wait for their columns. -/
structure Schema where
  /-- The tables. -/
  catalog : Catalog := {}
  /-- The comments that wait. -/
  waiting : Waiting := []
deriving DecidableEq, Repr

namespace Schema

/-- Defines a table, and gives it the comments that wait for its columns. -/
def defineTable (s : Schema) (table : String) (columns : List (String × String)) : Schema :=
  let t := (s.catalog.getOrEmpty table).replaceColumns
    (columns.map fun (name, dataType) => { name := name, dataType := dataType })
  let (t, waiting) := Waiting.deliver t s.waiting
  { catalog := s.catalog.put t, waiting := waiting }

/-- Sets or removes the comment of a table. -/
def describeTable (s : Schema) (table : String) (comment : Option String) : Schema :=
  { s with catalog := s.catalog.update table fun t => { t with comment := comment } }

/-- Sets or removes the comment of a column.  If the column is not known, a comment waits for it,
and a removal gives up the one that waits.  The table is known from now on in any case. -/
def describeColumn (s : Schema) (table column : String) (comment : Option String) : Schema :=
  let t := s.catalog.getOrEmpty table
  match t.updateColumn? column fun c => { c with comment := comment } with
  | some t => { s with catalog := s.catalog.put t }
  | none =>
    { catalog := s.catalog.put t
      waiting := match comment with
        | some text => s.waiting.insert (table, column) text
        | none => s.waiting.erase (table, column) }

/-- The effect of a request. -/
def apply (s : Schema) : Reading → Schema
  | .nothing => s
  | .defineTable table columns => s.defineTable table columns
  | .describeTable table comment => s.describeTable table comment
  | .describeColumn table column comment => s.describeColumn table column comment

end Schema

/-! ## Following files -/

/-- A schema that is being recovered from SQL files. -/
structure Recovery where
  /-- The dialect of the files. -/
  dialect : Dialect := default
  /-- What has been recovered so far. -/
  schema : Schema := {}
  /-- What has been reported so far. -/
  diagnostics : List Diagnostic := []
deriving DecidableEq, Repr

namespace Recovery

/-- Follows one statement: it takes effect, or it is reported. -/
def statement (r : Recovery) (file : String) (s : Statement) : Recovery :=
  match s.read r.dialect with
  | .ok reading => { r with schema := r.schema.apply reading }
  | .error fault => { r with diagnostics := r.diagnostics ++ [fault.toDiagnostic file s] }

/-- Follows some statements in order. -/
def statements (r : Recovery) (file : String) (ss : List Statement) : Recovery :=
  ss.foldl (fun r s => r.statement file s) r

/-- Follows the statements of a text. -/
def text (r : Recovery) (file : String) (cs : List Char) : Recovery :=
  r.statements file (Statement.split cs)

/-- Follows the statements of a file. -/
def bytes (r : Recovery) (file : String) (bs : List UInt8) : Recovery :=
  r.text file (Text.decodeLines bs)

/-- Adds a report that did not come from a statement. -/
def report (r : Recovery) (d : Diagnostic) : Recovery :=
  { r with diagnostics := r.diagnostics ++ [d] }

end Recovery

end Codebook
