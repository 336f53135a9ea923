import Codebook.Text.Lowercase
import Codebook.Text.Blank
import Codebook.Text.Letter.Alphabetic

/-!
# SQL statements

A statement is kept as one line of text.  Only three kinds are of interest, and the two leading
words tell which one a statement is.
-/

set_option autoImplicit false

namespace Codebook.Sql

open Codebook.Text

/-- The kinds of statements that are kept. -/
inductive StatementKind where
  | createTable
  | commentOn
  | alterTable
deriving DecidableEq, Repr

/-- A statement of one of the kinds, on one line and ended by a semicolon. -/
structure Statement where
  /-- What the statement does. -/
  kind : StatementKind
  /-- The text of the statement. -/
  text : String
  /-- The line on which the statement starts, counted from one. -/
  line : Nat
deriving DecidableEq, Repr

namespace StatementKind

/-- The name of the kind in listings. -/
def label : StatementKind → String
  | createTable => "CreateTable"
  | commentOn => "CommentOn"
  | alterTable => "AlterTable"

/-- Whether a word begins with a keyword that ends there: `TABLE"t"(` begins with `TABLE`, and
`TABLESPACE` does not. -/
def beginsWith (keyword word : List Char) : Bool :=
  equalAsciiCase (word.take keyword.length) keyword &&
    match word.drop keyword.length with
    | c :: _ => !(isAlphanumeric c || c == '_')
    | [] => true

/-- The kind that two leading words stand for. -/
def ofWords? (first second : List Char) : Option StatementKind :=
  if equalAsciiCase first "CREATE".toList && beginsWith "TABLE".toList second then
    some createTable
  else if equalAsciiCase first "COMMENT".toList && beginsWith "ON".toList second then
    some commentOn
  else if equalAsciiCase first "ALTER".toList && beginsWith "TABLE".toList second then
    some alterTable
  else none

/-- The kind of a statement. -/
def classify (text : List Char) : Option StatementKind :=
  match words text with
  | first :: second :: _ => ofWords? first second
  | _ => none

end StatementKind

end Codebook.Sql
