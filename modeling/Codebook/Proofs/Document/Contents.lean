import Codebook.Document.Data
import Codebook.Proofs.Json.Exact
import Codebook.Proofs.Json.Printed
import Codebook.Proofs.Schema.Catalog

/-!
# The document is read back

A reader of the document knows JSON and the names of the fields, and nothing of how the text is
made.  It takes from the text all that the groups and the tables hold, but for one thing: a value
is known as it is displayed, and a literal and a name may be displayed alike.

What is here: `contents?`, which goes by the names of the fields; `contents?_datum`, that it gives
back what is in the document; `json_read_back`, for the text; and `json_eq_json_iff`, that two
documents are the same text only if they hold the same.
-/

set_option autoImplicit false

namespace Codebook

/-! ## What is displayed -/

/-- A member with its value as it is displayed. -/
def Member.displayed (m : Member) : Member := { m with value := .literal m.value.display }

/-- A group with the values of its members as they are displayed. -/
def Group.displayed (g : Group) : Group := { g with members := g.members.map Member.displayed }

@[simp] theorem Group.toJson_displayed (g : Group) : g.displayed.toJson = g.toJson := by
  have hmembers : g.displayed.members.map Member.toJson = g.members.map Member.toJson :=
    List.map_map
  rw [toJson, hmembers]
  rfl

namespace Document

open Json

/-! ## Reading the fields -/

section

variable {α : Type}

/-- What a reader makes of the field of a given name. -/
def at? (read : Datum → Option α) (name : String) : Datum → Option α
  | .object fields => (fields.lookup name).bind read
  | _ => none

/-- A text. -/
def text? : Datum → Option String
  | .string s => some s
  | _ => none

/-- A text, or null where there is none. -/
def optionalText? : Datum → Option (Option String)
  | .null => some none
  | .string s => some (some s)
  | _ => none

/-- What a reader makes of each item of an array. -/
def list? (read : Datum → Option α) : Datum → Option (List α)
  | .array items => items.mapM read
  | _ => none

end

/-- The word that declares a group. -/
def kind? (d : Datum) : Option DeclarationKind :=
  (text? d).bind fun s => [.const, .var].find? fun k => k.name == s

/-- A category. -/
def category? (d : Datum) : Option Category :=
  (text? d).bind fun s =>
    [.status, .type, .flag, .mode, .level, .other].find? fun k => k.name == s

/-- A set of tags, whose list must ascend. -/
def tags? (d : Datum) : Option TagSet :=
  (list? text? d).bind fun ts => if h : ts.Pairwise (· < ·) then some ⟨ts, h⟩ else none

/-- A member, with its value as it is displayed. -/
def member? (d : Datum) : Option Member := do
  let name ← at? text? "name" d
  let value ← at? text? "value" d
  let comment ← at? text? "comment" d
  return { name, value := .literal value, comment }

/-- A group, with values as they are displayed. -/
def group? (d : Datum) : Option Group := do
  let name ← at? text? "name" d
  let description ← at? text? "description" d
  let package ← at? text? "package" d
  let file ← at? text? "file" d
  let kind ← at? kind? "kind" d
  let members ← at? (list? member?) "members" d
  let tags ← at? tags? "tags" d
  let category ← at? category? "category" d
  return { name, description, package, file, kind, members, tags, category }

/-- A column. -/
def column? (d : Datum) : Option Column := do
  let name ← at? text? "name" d
  let dataType ← at? text? "data_type" d
  let comment ← at? optionalText? "comment" d
  return { name, dataType, comment }

/-- A table. -/
def table? (d : Datum) : Option Table := do
  let name ← at? text? "name" d
  let comment ← at? optionalText? "comment" d
  let columns ← at? (list? column?) "columns" d
  return { name, comment, columns }

/-- What a document holds. -/
structure Contents where
  /-- The groups, in the order of the document. -/
  groups : List Group
  /-- The tables, in the order of the document. -/
  tables : List Table

/-- What a document holds, by the names of its fields. -/
def contents? (d : Datum) : Option Contents := do
  let groups ← at? (list? group?) "enums" d
  let tables ← at? (list? table?) "tables" d
  return { groups, tables }

/-! ## What is read -/

theorem at?_object {α : Type} (read : Datum → Option α) (name : String)
    (fields : List (String × Json)) :
    at? read name (Json.object fields).datum = (fields.lookup name).bind (read ·.datum) := by
  rw [datum, at?]
  induction fields with
  | nil => rfl
  | cons field fields ih =>
    obtain ⟨key, value⟩ := field
    rw [fieldData, List.lookup_cons, List.lookup_cons]
    split
    · rfl
    · exact ih

theorem list?_array {α β : Type} {read : Datum → Option β} {toJson : α → Json} {f : α → β}
    (h : ∀ a, read (toJson a).datum = some (f a)) (as : List α) :
    list? read (Json.array (as.map toJson)).datum = some (as.map f) := by
  rw [datum, itemData_eq_map, list?]
  induction as with
  | nil => rfl
  | cons a as ih => rw [List.map_cons, List.map_cons, List.mapM_cons, h, ih]; rfl

theorem text?_string (s : String) : text? (Json.string s).datum = some s := rfl

theorem optionalText?_ofOption (o : Option String) :
    optionalText? (Json.ofOption o).datum = some o := by
  cases o <;> rfl

theorem kind?_name (k : DeclarationKind) : kind? (Json.string k.name).datum = some k := by
  cases k <;> rfl

theorem category?_name (k : Category) : category? (Json.string k.name).datum = some k := by
  cases k <;> rfl

theorem tags?_toList (ts : TagSet) :
    tags? (Json.array (ts.toList.map Json.string)).datum = some ts := by
  rw [tags?, list?_array text?_string, List.map_id', Option.bind_some, dif_pos ts.ascending]

theorem member?_datum (m : Member) : member? m.toJson.datum = some m.displayed := rfl

theorem group?_datum (g : Group) : group? g.toJson.datum = some g.displayed := by
  simp [group?, Group.toJson, at?_object, List.lookup_cons, text?_string, kind?_name,
    list?_array member?_datum, tags?_toList, category?_name, Group.displayed]

theorem column?_datum (c : Column) : column? c.toJson.datum = some c := by
  simp [column?, Column.toJson, at?_object, List.lookup_cons, text?_string, optionalText?_ofOption]

theorem table?_datum (t : Table) : table? t.toJson.datum = some t := by
  simp [table?, Table.toJson, at?_object, List.lookup_cons, text?_string, optionalText?_ofOption,
    list?_array column?_datum]

/-- The document holds the groups and the tables. -/
theorem contents?_datum (r : Registry) (c : Catalog) :
    contents? (toJson r c).datum = some ⟨r.groups.map Group.displayed, c.sorted⟩ := by
  simp [contents?, toJson, at?_object, List.lookup_cons, list?_array group?_datum,
    list?_array table?_datum]

/-! ## The text -/

theorem read?_json (r : Registry) (c : Catalog) :
    read? (json r c).toList = some (toJson r c).datum :=
  read?_of_isText (isText_text _)

/-- **The document loses nothing.**  Its text is JSON and says one thing only, which is what is
read; and that holds the groups in their order, with values as they are displayed, and the tables in
ascending order of their names. -/
theorem json_read_back (r : Registry) (c : Catalog) :
    ∃ (d : Datum) (tables : List Table),
      (∀ e, IsText (json r c).toList e ↔ e = d) ∧ read? (json r c).toList = some d ∧
        contents? d = some ⟨r.groups.map Group.displayed, tables⟩ ∧
        tables.Perm c.tables ∧ tables.Pairwise fun s t => s.name ≤ t.name := by
  refine ⟨(toJson r c).datum, c.sorted, fun e => ?_, read?_json r c, contents?_datum r c,
    c.perm_sorted, c.pairwise_sorted⟩
  rw [← read?_eq_some_iff, read?_json, Option.some_inj, eq_comm]

/-- Two documents are one text only if they hold the same groups and tables. -/
theorem json_eq_json_iff (r s : Registry) (c d : Catalog) :
    json r c = json s d ↔
      r.groups.map Group.displayed = s.groups.map Group.displayed ∧ c.sorted = d.sorted := by
  constructor
  · intro h
    have hdatum : (toJson r c).datum = (toJson s d).datum := by
      rw [← Option.some_inj, ← read?_json, h, read?_json]
    have hcontents := contents?_datum r c
    rw [hdatum, contents?_datum] at hcontents
    simpa using hcontents.symm
  · rintro ⟨hgroups, htables⟩
    have hjson : r.groups.map Group.toJson = s.groups.map Group.toJson := by
      simpa [Function.comp_def] using congrArg (List.map Group.toJson) hgroups
    rw [json, json, toJson, toJson, hjson, htables]

end Document

end Codebook
