import Codebook.Document.Data
import Codebook.Document.Markdown
import Codebook.Files.Path
import Codebook.Go.Scan
import Codebook.Schema

/-!
# Surveys

A survey goes through the files of a project one after another.  Go files add groups, SQL files add
to the schema, and other files are passed over.  What it has found can be written as a document at
any time.
-/

set_option autoImplicit false

namespace Codebook

/-- The languages that are read. -/
inductive SourceKind where
  | go
  | sql
deriving DecidableEq, Repr

namespace SourceKind

/-- The extension of the files of a language. -/
def extension : SourceKind → String
  | go => "go"
  | sql => "sql"

/-- The language of the file that a path leads to. -/
def ofPath? (path : String) : Option SourceKind :=
  match Path.extension? path with
  | some "go" => some go
  | some "sql" => some sql
  | _ => none

end SourceKind

/-- What has been found. -/
structure Survey where
  /-- The groups. -/
  registry : Registry := {}
  /-- The tables, and what has been reported. -/
  recovery : Recovery := {}

namespace Survey

/-- A survey of nothing yet, in a dialect. -/
def start (dialect : Sql.Dialect) : Survey := { recovery := { dialect := dialect } }

/-- The tables. -/
def catalog (s : Survey) : Catalog := s.recovery.schema.catalog

/-- What has been reported. -/
def diagnostics (s : Survey) : List Diagnostic := s.recovery.diagnostics

/-- Takes the groups of a Go file, and tells how many the file has. -/
def addGo (s : Survey) (path : String) (bytes : List UInt8) :
    Except Go.ScanError (Survey × Nat) :=
  match Go.scan path bytes with
  | .ok groups => .ok ({ s with registry := s.registry.insertAll groups }, groups.length)
  | .error e => .error e

/-- Follows an SQL file. -/
def addSql (s : Survey) (path : String) (bytes : List UInt8) : Survey :=
  { s with recovery := s.recovery.bytes path bytes }

/-- Takes a file if its language is known, and tells whether it is. -/
def addFile (s : Survey) (path : String) (bytes : List UInt8) :
    Except Go.ScanError (Survey × Bool) :=
  match SourceKind.ofPath? path with
  | some .go => (s.addGo path bytes).map fun (s, _) => (s, true)
  | some .sql => .ok (s.addSql path bytes, true)
  | none => .ok (s, false)

/-- Reports a file that could not be taken. -/
def record (s : Survey) (e : Go.ScanError) : Survey :=
  { s with recovery := s.recovery.report e.toDiagnostic }

/-- The document in Markdown. -/
def markdown (s : Survey) : String := Document.markdown s.registry s.catalog

/-- The document in JSON. -/
def json (s : Survey) : String := Document.json s.registry s.catalog

end Survey

end Codebook
