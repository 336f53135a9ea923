import Codebook.Document.Json
import Codebook.Enumeration.Registry
import Codebook.Schema.Catalog

/-!
# The document as data

The groups in order of discovery and the tables in ascending order of their names, as JSON.
-/

set_option autoImplicit false

namespace Codebook

/-- A member as JSON. -/
def Member.toJson (m : Member) : Json :=
  .object
    [("name", .string m.name), ("value", .string m.value.display), ("comment", .string m.comment)]

/-- A group as JSON. -/
def Group.toJson (g : Group) : Json :=
  .object
    [("name", .string g.name), ("description", .string g.description),
      ("package", .string g.package), ("file", .string g.file), ("kind", .string g.kind.name),
      ("members", .array (g.members.map Member.toJson)),
      ("tags", .array (g.tags.toList.map Json.string)), ("category", .string g.category.name)]

/-- A column as JSON. -/
def Column.toJson (c : Column) : Json :=
  .object
    [("name", .string c.name), ("data_type", .string c.dataType),
      ("comment", .ofOption c.comment)]

/-- A table as JSON. -/
def Table.toJson (t : Table) : Json :=
  .object
    [("name", .string t.name), ("comment", .ofOption t.comment),
      ("columns", .array (t.columns.map Column.toJson))]

namespace Document

/-- The document as JSON. -/
def toJson (r : Registry) (c : Catalog) : Json :=
  .object
    [("enums", .array (r.groups.map Group.toJson)),
      ("tables", .array (c.sorted.map Table.toJson))]

/-- The text of the document as JSON. -/
def json (r : Registry) (c : Catalog) : String := (toJson r c).text

end Document

end Codebook
