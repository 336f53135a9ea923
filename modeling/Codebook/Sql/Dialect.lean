import Codebook.Text.Blank
import Codebook.Text.Lowercase

/-!
# SQL dialects

The two dialects differ in how names are quoted, in whether a backslash escapes within a string, in
the characters of a word, and in whether a column list may hold index clauses.
-/

set_option autoImplicit false

namespace Codebook.Sql

open Codebook.Text

/-- A supported SQL dialect. -/
inductive Dialect where
  | postgreSql
  | mySql
deriving DecidableEq, Repr

namespace Dialect

/-- The dialect that is assumed where none is named. -/
instance : Inhabited Dialect := ⟨postgreSql⟩

/-- The name that is printed. -/
def name : Dialect → String
  | postgreSql => "postgresql"
  | mySql => "mysql"

/-- The dialect with a given name, in any letter case. -/
def ofName? (s : String) : Option Dialect :=
  match lowercaseString s with
  | "postgresql" | "postgres" | "pg" => some postgreSql
  | "mysql" | "mysql8" | "mariadb" => some mySql
  | _ => none

/-- What is said about a name that no dialect has. -/
def unknownMessage (s : String) : String :=
  "Unknown dialect: '" ++ s ++ "'. Supported dialects: postgresql, mysql."

/-- The characters that may quote a name in a column list. -/
def nameQuotes : Dialect → List Char
  | postgreSql => ['"']
  | mySql => ['\x60', '"']

/-- A name without the quotes around it. -/
def unquote (d : Dialect) (name : List Char) : List Char :=
  trimWhile (fun c => d.nameQuotes.contains c) name

/-- Whether a column list may hold index clauses. -/
def hasIndexClauses : Dialect → Bool
  | postgreSql => false
  | mySql => true

end Dialect

end Codebook.Sql
