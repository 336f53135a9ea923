import Codebook.Enumeration.Registry
import Codebook.Schema.Catalog

/-!
# The document as Markdown

A section of enumerations and a section of tables, each left out if it has nothing to show.  Every
group and every table has a heading and a table of three columns, one row for each member or column.
What would break a row is replaced: line ends become spaces, and bars are escaped.
-/

set_option autoImplicit false

namespace Codebook.Document

/-! ## Cells -/

/-- A text on one line: every line end becomes a space. -/
def flatten : List Char → List Char
  | [] => []
  | '\r' :: '\n' :: cs => ' ' :: flatten cs
  | '\n' :: cs => ' ' :: flatten cs
  | '\r' :: cs => ' ' :: flatten cs
  | c :: cs => c :: flatten cs

/-- A text with its bars escaped. -/
def escapeBars (cs : List Char) : List Char :=
  cs.flatMap fun c => if c = '|' then ['\\', '|'] else [c]

/-- A text as it stands in a cell. -/
def cell (s : String) : String := String.ofList (escapeBars (flatten s.toList))

/-- A row of three cells. -/
def row (a b c : String) : String :=
  "| " ++ cell a ++ " | " ++ cell b ++ " | " ++ cell c ++ " |\n"

/-! ## Groups -/

/-- The tags of a group, each marked as code. -/
def tagLine : List String → String
  | [] => ""
  | [tag] => "`" ++ tag ++ "`"
  | tag :: tags => "`" ++ tag ++ "` · " ++ tagLine tags

/-- The row of a member. -/
def memberRow (m : Member) : String := row m.name m.value.display m.comment

/-- The rows of a list, one after another. -/
def rows (rs : List String) : String := rs.foldr (· ++ ·) ""

/-- What is written for a group. -/
def group (g : Group) : String :=
  "## " ++ g.name ++ "\n\n" ++
    (if g.tags.isEmpty then "" else "**Tags:** " ++ tagLine g.tags.toList ++ "\n\n") ++
    "| Name | Value | Description |\n|---|---|---|\n" ++ rows (g.members.map memberRow) ++ "\n"

/-! ## Tables -/

/-- A comment that has something to say. -/
def shown (comment : Option String) : Option String := comment.filter fun c => !c.isEmpty

/-- The heading of a table, with its comment in brackets. -/
def tableHeading (t : Table) : String :=
  match shown t.comment with
  | some comment =>
    "## " ++ t.name ++ "（" ++ String.ofList (flatten comment.toList) ++ "）\n\n"
  | none => "## " ++ t.name ++ "\n\n"

/-- The row of a column. -/
def columnRow (c : Column) : String := row c.name c.dataType ((shown c.comment).getD "-")

/-- What is written for a table. -/
def table (t : Table) : String :=
  tableHeading t ++ "| Column | Type | Description |\n|---|---|---|\n" ++
    rows (t.columns.map columnRow) ++ "\n"

/-! ## The document -/

/-- The text of the document as Markdown. -/
def markdown (r : Registry) (c : Catalog) : String :=
  (if r.isEmpty then "" else "# Enumerations\n\n" ++ rows (r.groups.map group)) ++
    (if c.isEmpty then "" else "# Database Tables\n\n" ++ rows (c.sorted.map table))

end Codebook.Document
