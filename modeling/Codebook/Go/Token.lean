/-!
# Tokens of Go

A token keeps its text and the rows that it starts and ends on: the rows tell which comment belongs
to which declaration.  Line ends are tokens, because some of them end a statement, and so are
comments.
-/

set_option autoImplicit false

namespace Codebook.Go

/-- The sorts of tokens. -/
inductive TokenKind where
  /-- A name or a keyword. -/
  | word
  /-- A number. -/
  | number
  /-- A character in single quotes. -/
  | rune
  /-- A string of either sort. -/
  | string
  /-- An operator, or punctuation. -/
  | symbol
  /-- The end of a line. -/
  | lineEnd
  /-- A comment of either sort. -/
  | comment
deriving DecidableEq, Repr

/-- A token. -/
structure Token where
  /-- The sort. -/
  kind : TokenKind
  /-- The text, as it stands in the source. -/
  text : String
  /-- The row of its first character, counted from zero. -/
  row : Nat
  /-- The column of its first character in bytes, counted from zero. -/
  column : Nat
  /-- The row of its last character. -/
  endRow : Nat
deriving DecidableEq, Repr

namespace Token

/-- Whether a token is a comment. -/
def isComment (t : Token) : Bool := t.kind == .comment

/-- Whether a token is the end of a line. -/
def isLineEnd (t : Token) : Bool := t.kind == .lineEnd

end Token

end Codebook.Go
