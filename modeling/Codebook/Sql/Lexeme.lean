/-!
# Lexemes of SQL

Only the head of a statement is read word by word, and only a few sorts of lexemes matter there:
words, periods, and texts in quotes.  Blanks and comments are no lexemes, and everything else is one
sort.
-/

set_option autoImplicit false

namespace Codebook.Sql

/-- How a text is quoted. -/
inductive TextStyle where
  /-- `'…'`. -/
  | plain
  /-- `E'…'`, with backslash escapes. -/
  | escaped
  /-- `N'…'`. -/
  | national
  /-- `"…"`, where it is no name. -/
  | double
deriving DecidableEq, Repr

/-- A lexeme. -/
inductive Lexeme where
  /-- A word, with the mark around it if it is quoted. -/
  | word (value : String) (quote : Option Char)
  /-- A text, without its quotes and escapes. -/
  | text (style : TextStyle) (value : String)
  /-- A lone period. -/
  | period
  /-- A number, an operator, or a literal of another sort. -/
  | other
deriving DecidableEq, Repr

namespace Lexeme

/-- Whether a lexeme is a keyword: a word without quotes, in any letter case. -/
def isKeyword (keyword : String) : Lexeme → Bool
  | word value none => value.toList.map Char.toLower == keyword.toList.map Char.toLower
  | _ => false

end Lexeme

/-- Why a text cannot be read. -/
inductive LexicalFault where
  /-- A string is not closed. -/
  | openText
  /-- An escaped string is not closed, or has an escape that stands for nothing. -/
  | openEscaped
  /-- A quoted name is not closed. -/
  | openName (mark : Char)
  /-- A string between double dollars is not closed. -/
  | openDollar
  /-- A string between tagged dollars is not closed. -/
  | openTaggedDollar
  /-- A block comment is not closed. -/
  | openComment
  /-- A string with Unicode escapes is not closed. -/
  | openUnicode
  /-- The text ends within a Unicode escape. -/
  | endInUnicodeEscape
  /-- A Unicode escape has a character that is no digit. -/
  | badHexDigit (c : Char)
  /-- A Unicode escape stands for no character. -/
  | badCodePoint (n : Nat)
deriving DecidableEq, Repr

namespace LexicalFault

/-- What is said about a fault, before its position. -/
def message : LexicalFault → String
  | openText => "Unterminated string literal"
  | openEscaped => "Unterminated encoded string literal"
  | openName mark => "Expected close delimiter '" ++ String.ofList [mark] ++ "' before EOF."
  | openDollar => "Unterminated dollar-quoted string"
  | openTaggedDollar => "Unterminated dollar-quoted, expected $"
  | openComment => "Unexpected EOF while in a multi-line comment"
  | openUnicode => "Unterminated unicode encoded string literal"
  | endInUnicodeEscape => "Unexpected EOF while parsing hex digit in escaped unicode string."
  | badHexDigit c => "Invalid hex digit in escaped unicode string: " ++ String.ofList [c]
  | badCodePoint n => "Invalid unicode character: " ++ String.ofList (Nat.toDigits 16 n)

end LexicalFault

/-- A place in a text: line and column, both counted from one. -/
structure Position where
  /-- The line. -/
  line : Nat
  /-- The column, in characters. -/
  column : Nat
deriving DecidableEq, Repr

namespace Position

/-- The place after one more character. -/
def after (p : Position) (c : Char) : Position :=
  if c = '\n' then ⟨p.line + 1, 1⟩ else ⟨p.line, p.column + 1⟩

/-- The place after the given characters. -/
def ofRead (cs : List Char) : Position := cs.foldl after ⟨1, 1⟩

end Position

/-- A fault, and what was left to read at its place. -/
structure LexicalError where
  /-- The fault. -/
  fault : LexicalFault
  /-- The characters from its place on. -/
  rest : List Char
deriving DecidableEq, Repr

namespace LexicalError

/-- The place of the error in the text that was read. -/
def position (e : LexicalError) (text : List Char) : Position :=
  Position.ofRead (text.take (text.length - e.rest.length))

/-- What is said about the error. -/
def message (e : LexicalError) (text : List Char) : String :=
  let p := e.position text
  e.fault.message ++ " at Line: " ++ toString p.line ++ ", Column: " ++ toString p.column

end LexicalError

end Codebook.Sql
