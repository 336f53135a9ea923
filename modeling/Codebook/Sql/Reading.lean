import Codebook.Diagnostic
import Codebook.Sql.ColumnList
import Codebook.Sql.Lexeme.Lexer
import Codebook.Sql.Name
import Codebook.Sql.Statement

/-!
# What a statement asks for

Reading a statement takes its text apart and says what is to be done to the schema, without looking
at the schema.  A statement that cannot be read has a fault.

What is here: `Reading`, the requests; `StatementFault`, the faults and what is said about them; and
`Statement.read`.
-/

set_option autoImplicit false

namespace Codebook.Sql

/-- What a statement asks for. -/
inductive Reading where
  /-- Nothing that matters here. -/
  | nothing
  /-- A table with these names and types of columns. -/
  | defineTable (table : String) (columns : List (String × String))
  /-- A comment on a table, or the removal of it. -/
  | describeTable (table : String) (comment : Option String)
  /-- A comment on a column, or the removal of it. -/
  | describeColumn (table column : String) (comment : Option String)
deriving DecidableEq, Repr

/-- The table that a request is about. -/
def Reading.table? : Reading → Option String
  | nothing => none
  | defineTable table _ => some table
  | describeTable table _ => some table
  | describeColumn table _ _ => some table

/-! ## Faults -/

/-- Why a statement cannot be read. -/
inductive StatementFault where
  /-- Its text is not made of lexemes. -/
  | unreadable (message : String)
  /-- It creates a table without a name. -/
  | noTableName
  /-- It creates a table without a column list. -/
  | noColumnList (table : String)
  /-- It comments on something but starts otherwise. -/
  | noCommentOn
  /-- It comments on nothing. -/
  | noTarget
  /-- The target of the comment is not followed by `IS`. -/
  | noIs
  /-- The comment has no text. -/
  | noText
  /-- It comments on a name without segments. -/
  | noSegments
deriving DecidableEq, Repr

namespace StatementFault

/-- The kind of diagnostic that reports a fault. -/
def kind : StatementFault → DiagnosticKind
  | unreadable _ => .unreadableStatement
  | noTableName => .missingTableName
  | noColumnList _ => .missingColumnList
  | noCommentOn | noTarget | noIs | noText | noSegments => .malformedComment

/-- What is said about a fault. -/
def message : StatementFault → String
  | unreadable message => message
  | noTableName => "could not extract a table name from CREATE TABLE"
  | noColumnList table => "CREATE TABLE " ++ table ++ " has no column list"
  | noCommentOn => "statement does not start with COMMENT ON"
  | noTarget => "COMMENT ON has no target"
  | noIs => "missing IS after comment target"
  | noText => "missing quoted comment text"
  | noSegments => "COMMENT ON has no target"

/-- What may help against a fault. -/
def help : StatementFault → Option String
  | noCommentOn | noTarget | noIs | noText =>
    some "expected COMMENT ON [TABLE|COLUMN] <target> IS '<text>'"
  | _ => none

/-- The warning about a statement with a fault. -/
def toDiagnostic (fault : StatementFault) (file : String) (s : Statement) : Diagnostic where
  kind := fault.kind
  severity := .warning
  message := fault.message
  file := some file
  span := some (Span.ofStatement s.line s.text)
  statement := some s.text
  help := fault.help

end StatementFault

/-! ## Parts of a statement -/

/-- The lexemes of a text, or the fault of having none. -/
def lexemes (d : Dialect) (text : List Char) : Except StatementFault (List Lexeme) :=
  match Lexeme.scan d text with
  | .ok ls => .ok ls
  | .error e => .error (.unreadable (e.message text))

/-- The segments of a name at the front, and what follows the name.  A period at the end belongs to
the name. -/
def objectName : List Lexeme → List String × List Lexeme
  | .word segment _ :: .period :: rest =>
    let (segments, rest) := objectName rest
    (segment :: segments, rest)
  | .word segment _ :: rest => ([segment], rest)
  | rest => ([], rest)

/-- What follows the given keywords at the front. -/
def afterKeywords? : List String → List Lexeme → Option (List Lexeme)
  | [], rest => some rest
  | _ :: _, [] => none
  | keyword :: keywords, l :: rest =>
    if l.isKeyword keyword then afterKeywords? keywords rest else none

/-! ## Creating a table -/

/-- The name in the header of a table. -/
def tableName? (header : List Lexeme) : Option QualifiedName :=
  match afterKeywords? ["CREATE", "TABLE"] header with
  | none => none
  | some rest =>
    let rest := (afterKeywords? ["IF", "NOT", "EXISTS"] rest).getD rest
    QualifiedName.ofSegments? (objectName rest).1

/-- Reads the creation of a table. -/
def readCreateTable (d : Dialect) (text : List Char) : Except StatementFault Reading :=
  match lexemes d (header text) with
  | .error fault => .error fault
  | .ok ls =>
    match tableName? ls with
    | none => .error .noTableName
    | some q =>
      match body? text with
      | none => .error (.noColumnList q.name)
      | some body =>
        .ok (.defineTable q.name
          ((columns d body).map fun (name, type) => (String.ofList name, String.ofList type)))

/-! ## Commenting -/

/-- What a comment says it is about. -/
inductive CommentTarget where
  | table
  | column
  | unspecified
deriving DecidableEq, Repr

/-- What a comment is said to be about, and what follows. -/
def commentTarget : List Lexeme → CommentTarget × List Lexeme
  | [] => (.unspecified, [])
  | l :: rest =>
    if l.isKeyword "TABLE" then (.table, rest)
    else if l.isKeyword "COLUMN" then (.column, rest)
    else (.unspecified, l :: rest)

/-- The text that a lexeme gives for a comment; `NULL` removes the comment. -/
def commentText : Lexeme → Except StatementFault (Option String)
  | .text _ value => .ok (some value)
  | .word value (some '"') => .ok (some value)
  | l => if l.isKeyword "NULL" then .ok none else .error .noText

/-- The request of a comment on a name.  A single segment is a table, and the target `TABLE` takes
the last segment; otherwise the last two segments are a table and its column. -/
def describe (target : CommentTarget) (comment : Option String) :
    List String → Except StatementFault Reading
  | [] => .error .noSegments
  | [table] => .ok (.describeTable table comment)
  | [first, second] =>
    if target = .table then .ok (.describeTable second comment)
    else .ok (.describeColumn first second comment)
  | _ :: segment :: segments => describe target comment (segment :: segments)

/-- Reads a comment. -/
def readComment (d : Dialect) (text : List Char) : Except StatementFault Reading :=
  match lexemes d text with
  | .error fault => .error fault
  | .ok ls =>
    match afterKeywords? ["COMMENT", "ON"] ls with
    | none => .error .noCommentOn
    | some rest =>
      let (target, rest) := commentTarget rest
      match objectName rest with
      | ([], _) => .error .noTarget
      | (segment :: segments, rest) =>
        match afterKeywords? ["IS"] rest with
        | none => .error .noIs
        | some [] => .error .noText
        | some (l :: _) =>
          match commentText l with
          | .error fault => .error fault
          | .ok comment => describe target comment (segment :: segments)

/-- Reads a statement. -/
def Statement.read (d : Dialect) (s : Statement) : Except StatementFault Reading :=
  match s.kind with
  | .createTable => readCreateTable d s.text.toList
  | .commentOn => readComment d s.text.toList
  | .alterTable => .ok .nothing

end Codebook.Sql
