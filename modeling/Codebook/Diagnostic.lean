/-!
# Diagnostics

A diagnostic is a problem that does not stop the work: the statement or file it is about is passed
over.  It carries a kind with a stable code, a message, and as much of the place and the text as is
known.
-/

set_option autoImplicit false

namespace Codebook

/-- A place in a source, and the length of what stands there. -/
structure Span where
  /-- The offset in bytes from the start of the source. -/
  offset : Nat
  /-- The length in bytes. -/
  length : Nat
  /-- The line, counted from one. -/
  line : Nat
  /-- The column, counted from one. -/
  column : Nat
deriving DecidableEq, Repr

namespace Span

/-- A span at a line and column. -/
def located (line column length : Nat) : Span := ⟨0, length, line, column⟩

/-- The span of a whole statement that starts on a line. -/
def ofStatement (line : Nat) (text : String) : Span := Span.located line 1 text.utf8ByteSize

end Span

/-- How grave a problem is. -/
inductive Severity where
  | error
  | warning
deriving DecidableEq, Repr

/-- The name of a severity in messages. -/
def Severity.name : Severity → String
  | .error => "error"
  | .warning => "warning"

/-- The kinds of problems. -/
inductive DiagnosticKind where
  /-- A table is created without a name that can be recognised. -/
  | missingTableName
  /-- A table is created without a column list. -/
  | missingColumnList
  /-- A comment statement has not the form that is expected. -/
  | malformedComment
  /-- A statement cannot be read word by word. -/
  | unreadableStatement
  /-- A source file cannot be read. -/
  | unreadableSource
deriving DecidableEq, Repr

namespace DiagnosticKind

/-- The stable code of a kind. -/
def code : DiagnosticKind → String
  | missingTableName => "W0001"
  | missingColumnList => "W0002"
  | malformedComment => "W0003"
  | unreadableStatement => "W0004"
  | unreadableSource => "E1000"

/-- The name of a kind as a rule. -/
def rule : DiagnosticKind → String
  | missingTableName => "missing-table-name"
  | missingColumnList => "missing-column-list"
  | malformedComment => "malformed-comment"
  | unreadableStatement => "tokenize-error"
  | unreadableSource => "source-parse-error"

/-- The name of a kind in a serialised diagnostic. -/
def label : DiagnosticKind → String
  | missingTableName => "MissingTableName"
  | missingColumnList => "MissingColumnList"
  | malformedComment => "MalformedComment"
  | unreadableStatement => "TokenizeError"
  | unreadableSource => "SourceParseError"

end DiagnosticKind

/-- A problem that has been found. -/
structure Diagnostic where
  /-- The kind of problem. -/
  kind : DiagnosticKind
  /-- How grave it is. -/
  severity : Severity
  /-- What is said about it. -/
  message : String
  /-- The file it is in. -/
  file : Option String := none
  /-- Its place in the file. -/
  span : Option Span := none
  /-- The statement it is about. -/
  statement : Option String := none
  /-- What may help. -/
  help : Option String := none
deriving DecidableEq, Repr

end Codebook
