/-!
# Tables and columns

A column is looked up by its exact name first, and only then without regard to the case of ASCII
letters.  When a table is created again its new columns take over the comments of the old ones.
-/

set_option autoImplicit false

namespace Codebook

/-- A column of a table. -/
structure Column where
  /-- The name. -/
  name : String
  /-- The type as it is written in the declaration. -/
  dataType : String
  /-- The comment. -/
  comment : Option String := none
deriving DecidableEq, Repr

/-- A table. -/
structure Table where
  /-- The name, without a schema. -/
  name : String
  /-- The comment. -/
  comment : Option String := none
  /-- The columns, in the order of their declaration. -/
  columns : List Column := []
deriving DecidableEq, Repr

/-- Whether two names agree up to the case of ASCII letters. -/
def sameNameAsciiCase (a b : String) : Bool :=
  a.toList.map Char.toLower == b.toList.map Char.toLower

namespace Table

/-- The place of a column with a given name: an exact match if there is one, else a match up to the
case of ASCII letters. -/
def columnIndex? (t : Table) (name : String) : Option Nat :=
  (t.columns.findIdx? (·.name == name)).or
    (t.columns.findIdx? fun c => sameNameAsciiCase c.name name)

/-- The column with a given name. -/
def column? (t : Table) (name : String) : Option Column :=
  (t.columnIndex? name).bind fun i => t.columns[i]?

/-- The names of the columns. -/
def columnNames (t : Table) : List String := t.columns.map Column.name

/-- The table with the column of a given name changed, if it has such a column. -/
def updateColumn? (t : Table) (name : String) (f : Column → Column) : Option Table :=
  (t.columnIndex? name).map fun i => { t with columns := t.columns.modify i f }

/-- Gives the comment of an earlier column to the column of that name, unless there is none or it
has a comment already. -/
def inherit (t : Table) (old : Column) : Table :=
  match old.comment with
  | none => t
  | some text =>
    (t.updateColumn? old.name fun c => { c with comment := some (c.comment.getD text) }).getD t

/-- The table with a new list of columns, which inherit the comments of the old ones in order. -/
def replaceColumns (t : Table) (columns : List Column) : Table :=
  t.columns.foldl inherit { t with columns := columns }

end Table

end Codebook
