import Codebook.Sql.Dialect
import Codebook.Sql.Nesting

/-!
# Column lists

The column list of a `CREATE TABLE` is the text between its first parenthesis and the partner of
that.  Commas at the top level of the list separate its clauses.  A clause is a column or a table
clause, such as a constraint; a column is a name, a type, and whatever follows.

What is here: `header` and `body`, the parts of a statement; `clauses` and `tokens`, the parts of a
list and of a clause; `columnType`, which tells where the type of a column ends; and `column?`.
-/

set_option autoImplicit false

namespace Codebook.Sql

open Codebook.Text

/-! ## Around the list -/

/-- The text before and after the first opening parenthesis outside of quotations. -/
def breakAtOpening (text : List Char) : Option (List Char × List Char) :=
  Nesting.breakAt (fun c _ => c == '(') {} text

/-- The text before the last occurrence of a character. -/
def beforeLast? (mark : Char) (cs : List Char) : Option (List Char) :=
  match cs.reverse.dropWhile (· != mark) with
  | [] => none
  | _ :: before => some before.reverse

/-- The text before the column list.  A statement without a list is all header, but for the
semicolons at its end. -/
def header (statement : List Char) : List Char :=
  match breakAtOpening statement with
  | some (before, _) => before
  | none => trimRightWhile (· == ';') statement

/-- The text between the first opening parenthesis and its partner.  Where it has none, the text
runs to the last closing parenthesis of any sort. -/
def body? (statement : List Char) : Option (List Char) :=
  match breakAtOpening statement with
  | none => none
  | some (_, rest) =>
    match Nesting.breakAt (fun c depth => c == ')' && depth == 0) { depth := 1 } rest with
    | some (inside, _) => some inside
    | none => beforeLast? ')' rest

/-! ## Parts -/

/-- The list without its last part, if that one is empty. -/
def dropEmptyLast : List (List Char) → List (List Char)
  | [] => []
  | [part] => if part.isEmpty then [] else [part]
  | part :: next :: parts => part :: dropEmptyLast (next :: parts)

/-- The parts of a text between its top-level separators.  Nothing after the last one is no part. -/
def splitTopLevel (separator : Char) (text : List Char) : List (List Char) :=
  dropEmptyLast (Nesting.cutAtDepthZero (· == separator) {} text)

/-- A finished token, if it has been started, and the tokens after it. -/
def closeToken (current : List Char) (tokens : List (List Char)) : List (List Char) :=
  if current.isEmpty then tokens else current.reverse :: tokens

/-- The tokens of a text of which the characters of `current` are read, last one first. -/
def tokensFrom (quote : Option Char) (depth : Nat) (current : List Char) :
    List Char → List (List Char)
  | [] => closeToken current []
  | c :: cs =>
    match quote with
    | some mark => tokensFrom (if c = mark then none else some mark) depth (c :: current) cs
    | none =>
      if isQuoteMark c then tokensFrom (some c) depth (c :: current) cs
      else if c = '(' then tokensFrom none (depth + 1) (c :: current) cs
      else if c = ')' then tokensFrom none (depth - 1) (c :: current) cs
      else if isAsciiBlank c && depth == 0 then closeToken current (tokensFrom none depth [] cs)
      else tokensFrom none depth (c :: current) cs

/-- The tokens of a clause, separated by blanks at the top level: `numeric(10, 2)` is one token. -/
def tokens (text : List Char) : List (List Char) := tokensFrom none 0 [] text

/-! ## Clauses -/

/-- Words that continue the name of a type, as in `character varying`. -/
def typeContinuations : List String :=
  ["VARYING", "PRECISION", "WITH", "WITHOUT", "TIME", "ZONE", "UNSIGNED", "ZEROFILL"]

/-- First words of clauses that are about the table. -/
def tableClauses : List String :=
  ["PRIMARY", "CONSTRAINT", "FOREIGN", "UNIQUE", "CHECK", "EXCLUDE", "LIKE"]

/-- First words of index clauses. -/
def indexClauses : List String := ["KEY", "INDEX", "FULLTEXT", "SPATIAL"]

/-- The keyword that a token starts with, in capitals: `VARCHAR` for `varchar(10)`. -/
def keywordOf (token : List Char) : String :=
  String.ofList ((token.takeWhile fun c => !(c == '(' || c == '[')).map Char.toUpper)

/-- Whether a clause is about the table and not a column.  A quoted word is always a name. -/
def isTableClause (d : Dialect) (clause : List Char) : Bool :=
  match tokens clause with
  | [] => false
  | first :: _ =>
    if first.head?.any fun c => c == '"' || c == '\x60' then false
    else
      let keyword := keywordOf first
      tableClauses.contains keyword || (d.hasIndexClauses && indexClauses.contains keyword)

/-- Whether a token after the first one still belongs to the type: a continuing word, or arguments
or array bounds that stand apart. -/
def continuesType (token : List Char) : Bool :=
  (token.head?.any fun c => c == '(' || c == '[') || typeContinuations.contains (keywordOf token)

/-- The type that the tokens after the name of a column begin with. -/
def columnType : List (List Char) → List Char
  | [] => []
  | first :: rest => joinWith [' '] (first :: rest.takeWhile continuesType)

/-- The name and the type of the column that a clause declares, if it declares one. -/
def column? (d : Dialect) (clause : List Char) : Option (List Char × List Char) :=
  let clause := trim clause
  if isTableClause d clause then none
  else
    match tokens clause with
    | name :: first :: rest => some (d.unquote name, columnType (first :: rest))
    | _ => none

/-- The names and types of the columns of a list. -/
def columns (d : Dialect) (body : List Char) : List (List Char × List Char) :=
  (splitTopLevel ',' body).filterMap (column? d)

end Codebook.Sql
