import Codebook.Command.Generate

/-!
# Listing what SQL files hold

Two commands show what is read from SQL files and write nothing: one lists the tables, the other the
statements.
-/

set_option autoImplicit false

namespace Codebook.Command

/-! ## Tables -/

/-- A comment with marks around it, where there is one. -/
def commentIn (before after : String) : Option String → String
  | some comment => before ++ comment ++ after
  | none => ""

/-- The line of a column. -/
def columnLine (c : Column) : String :=
  "  - " ++ c.name ++ " " ++ c.dataType ++ commentIn " -- " "" c.comment ++ "\n"

/-- The lines of a table. -/
def tableLines (t : Table) : String :=
  "\nTable: " ++ t.name ++ commentIn " (" ")" t.comment ++ "\n" ++
    t.columns.foldr (fun c text => columnLine c ++ text) ""

/-- The listing of some tables. -/
def tableListing (c : Catalog) : String :=
  "Schema Information:\n==================\n" ++
    c.sorted.foldr (fun t text => tableLines t ++ text) ""

/-- Follows some files in order. -/
def followAll (scene : Scene) (r : Recovery) : List String → Except Failure Recovery
  | [] => .ok r
  | path :: paths => do followAll scene (r.bytes path (← scene.read path)) paths

/-- The tables of some files in a dialect that is named. -/
def recover (scene : Scene) (files : List String) (dialect : Option String) :
    Except Failure Recovery :=
  match dialect with
  | none => followAll scene {} files
  | some name =>
    match Sql.Dialect.ofName? name with
    | some d => followAll scene { dialect := d } files
    | none => .error (.unknownDialect name)

/-- Lists the tables of some files. -/
def listTables (scene : Scene) (files : List String) (dialect : Option String) : Outcome :=
  match recover scene files dialect with
  | .error f => { failure := some f, volume := scene.volume }
  | .ok r =>
    { stdout := tableListing r.schema.catalog
      stderr := MessageFormat.human.write r.diagnostics
      volume := scene.volume }

/-! ## Statements -/

/-- The line of a statement. -/
def statementLine (s : Sql.Statement) : String :=
  Diagnostic.padded 4 s.line ++ " [" ++ s.kind.label ++ "] " ++ s.text ++ "\n"

/-- Lists the statements of a file. -/
def listStatements (scene : Scene) (file : String) : Outcome :=
  match scene.read file with
  | .error f => { failure := some f, volume := scene.volume }
  | .ok bytes =>
    let statements := Sql.Statement.split (Text.decodeLines bytes)
    { stdout := statements.foldr (fun s text => statementLine s ++ text) ""
      volume := scene.volume }

end Codebook.Command
