/-!
# Names of tables

A table may be named with its schema, and with a database before that.  Only the last two segments
matter, and tables are told apart by the last one alone.
-/

set_option autoImplicit false

namespace Codebook.Sql

/-- A table name, with its schema if it is given. -/
structure QualifiedName where
  /-- The schema. -/
  schema : Option String
  /-- The name within the schema. -/
  name : String
deriving DecidableEq, Repr

namespace QualifiedName

/-- The name made of some segments, without quotes.  Segments before the last two are dropped. -/
def ofSegments? : List String → Option QualifiedName
  | [] => none
  | [name] => some ⟨none, name⟩
  | [schema, name] => some ⟨some schema, name⟩
  | _ :: segment :: segments => ofSegments? (segment :: segments)

/-- The name as it is written. -/
def display (q : QualifiedName) : String :=
  match q.schema with
  | some schema => schema ++ "." ++ q.name
  | none => q.name

/-- The bare name is the last segment. -/
theorem name_ofSegments? (segments : List String) :
    (ofSegments? segments).map QualifiedName.name = segments.getLast? := by
  induction segments with
  | nil => rfl
  | cons a rest ih =>
    match rest with
    | [] => rfl
    | [b] => rfl
    | b :: c :: more => simpa [ofSegments?] using ih

end QualifiedName

end Codebook.Sql
