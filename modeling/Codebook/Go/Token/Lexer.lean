import Codebook.Go.Token
import Codebook.Text.Letter.Identifier
import Codebook.Text.Search

/-!
# Reading Go tokens

A *matcher* takes the longest text of some sort off the front and gives what is left.  The lexer
asks the matchers that fit the first character; a text that none of them matches cannot be read.

What is here: the matchers for numbers, strings, runes and comments; `matchToken`, which picks among
them; and `Token.scan`.
-/

set_option autoImplicit false

namespace Codebook.Go

open Text

/-- Gives what is left after a text of some sort at the front. -/
abbrev Matcher := List Char → Option (List Char)

namespace Matcher

/-- Matches one character in `p`. -/
def one (p : Char → Bool) : Matcher
  | c :: cs => if p c then some cs else none
  | [] => none

/-- Matches one text after another. -/
def andThen (a b : Matcher) : Matcher := fun cs => (a cs).bind b

/-- Matches a text or nothing. -/
def orNothing (a : Matcher) : Matcher := fun cs => some ((a cs).getD cs)

/-- Picks the match that leaves less. -/
def longer (a b : Option (List Char)) : Option (List Char) :=
  match a, b with
  | some x, some y => if y.length < x.length then some y else some x
  | some x, none => some x
  | none, b => b

/-- Matches the longest text that one of some matchers matches. -/
def longest (ms : List Matcher) : Matcher := fun cs =>
  ms.foldl (fun best m => longer best (m cs)) none

end Matcher

open Matcher

/-! ## Numbers -/

/-- What is left after more digits, with single underscores between them. -/
def skipDigits (p : Char → Bool) : List Char → List Char
  | [] => []
  | '_' :: c :: cs => if p c then skipDigits p cs else '_' :: c :: cs
  | c :: cs => if p c then skipDigits p cs else c :: cs

/-- Matches digits with single underscores between them. -/
def digits (p : Char → Bool) : Matcher := fun cs => (one p cs).map (skipDigits p)

/-- Whether a character is a hexadecimal digit. -/
def isHexDigit (c : Char) : Bool :=
  c.isDigit || ('a' ≤ c && c ≤ 'f') || ('A' ≤ c && c ≤ 'F')

/-- Whether a character is an octal digit. -/
def isOctalDigit (c : Char) : Bool := '0' ≤ c && c ≤ '7'

/-- Whether a character is a binary digit. -/
def isBinaryDigit (c : Char) : Bool := c == '0' || c == '1'

/-- Matches one given character. -/
def char (c : Char) : Matcher := one (· == c)

/-- Matches a letter of either case. -/
def letter (small capital : Char) : Matcher := one fun c => c == small || c == capital

/-- Matches digits that an underscore may precede. -/
def spacedDigits (p : Char → Bool) : Matcher := (orNothing (char '_')).andThen (digits p)

/-- Matches the integers. -/
def integers : List Matcher :=
  [char '0',
    (one fun c => '1' ≤ c && c ≤ '9').andThen (orNothing (spacedDigits Char.isDigit)),
    (char '0').andThen ((letter 'b' 'B').andThen (spacedDigits isBinaryDigit)),
    (char '0').andThen ((orNothing (letter 'o' 'O')).andThen (spacedDigits isOctalDigit)),
    (char '0').andThen ((letter 'x' 'X').andThen (spacedDigits isHexDigit))]

/-- Matches an exponent after one of two letters. -/
def exponent (small capital : Char) : Matcher :=
  (letter small capital).andThen
    ((orNothing (one fun c => c == '+' || c == '-')).andThen (digits Char.isDigit))

/-- Matches the decimal fractions. -/
def decimals : List Matcher :=
  [(digits Char.isDigit).andThen ((char '.').andThen
      ((orNothing (digits Char.isDigit)).andThen (orNothing (exponent 'e' 'E')))),
    (digits Char.isDigit).andThen (exponent 'e' 'E'),
    (char '.').andThen ((digits Char.isDigit).andThen (orNothing (exponent 'e' 'E')))]

/-- Matches the hexadecimal fractions, which need an exponent. -/
def hexFractions : List Matcher :=
  [(spacedDigits isHexDigit).andThen ((char '.').andThen (orNothing (digits isHexDigit))),
    spacedDigits isHexDigit,
    (char '.').andThen (digits isHexDigit)].map fun mantissa =>
      (char '0').andThen ((letter 'x' 'X').andThen (mantissa.andThen (exponent 'p' 'P')))

/-- Matches a number.  Any of them may be imaginary. -/
def number : Matcher :=
  let real := digits Char.isDigit :: integers ++ decimals ++ hexFractions
  longest (integers ++ decimals ++ hexFractions ++ real.map fun m => m.andThen (char 'i'))

/-! ## Strings and runes -/

/-- Matches so many characters in `p`. -/
def exactly (p : Char → Bool) : Nat → Matcher
  | 0 => some
  | n + 1 => (one p).andThen (exactly p n)

/-- What is left after a string, whose opening quote is read.  After a backslash stands one
character, or the hexadecimal digits of a character. -/
def skipString : Nat → Matcher
  | 0, _ => none
  | _ + 1, [] => none
  | fuel + 1, c :: cs =>
    if c = '"' then some cs
    else if c = '\n' ∨ c = '\x00' then none
    else if c = '\\' then
      match cs with
      | 'x' :: rest => (exactly isHexDigit 2 rest).bind (skipString fuel)
      | 'u' :: rest => (exactly isHexDigit 4 rest).bind (skipString fuel)
      | 'U' :: rest => (exactly isHexDigit 8 rest).bind (skipString fuel)
      | '\x00' :: _ => none
      | _ :: rest => skipString fuel rest
      | [] => none
    else skipString fuel cs

/-- What is left after a raw string, whose opening quote is read. -/
def skipRawString : Matcher
  | [] => none
  | c :: cs => if c = '\x60' then some cs else if c = '\x00' then none else skipRawString cs

/-- Matches what may stand after a backslash in a rune. -/
def runeEscape : Matcher
  | 'x' :: cs => exactly isHexDigit 2 cs
  | 'u' :: cs => exactly isHexDigit 4 cs
  | 'U' :: cs => exactly isHexDigit 8 cs
  | c :: cs =>
    if isOctalDigit c then exactly isOctalDigit 2 cs
    else if "abfnrtv\\'\"".toList.contains c then some cs
    else none
  | [] => none

/-- What is left after a rune, whose opening quote is read. -/
def skipRune : Matcher
  | '\\' :: cs => (runeEscape cs).bind (char '\'')
  | c :: cs => if c = '\'' ∨ c = '\x00' then none else char '\'' cs
  | [] => none

/-! ## Comments -/

/-- What is left after a line comment. -/
def skipLineComment : List Char → List Char
  | [] => []
  | c :: cs => if c = '\n' ∨ c = '\x00' then c :: cs else skipLineComment cs

/-- What is left after a block comment, whose opening is read. -/
def skipBlockComment : Matcher
  | [] => none
  | '*' :: '/' :: cs => some cs
  | c :: cs => if c = '\x00' then none else skipBlockComment cs

/-! ## Symbols -/

/-- The symbols of more than one character, longer ones first. -/
def longSymbols : List String :=
  ["<<=", ">>=", "&^=", "...", "&&", "||", "<-", "++", "--", "==", "!=", "<=", ">=", ":=", "+=",
    "-=", "*=", "/=", "%=", "&=", "|=", "^=", "<<", ">>", "&^"]

/-- The symbols of one character. -/
def shortSymbols : List Char := "+-*/%&|^<>=!()[]\x7b\x7d,;.:~\x00".toList

/-- Matches a symbol. -/
def symbol : Matcher := fun cs =>
  match longSymbols.findSome? fun s => afterPrefix? s.toList cs with
  | some rest => some rest
  | none => one (fun c => shortSymbols.contains c) cs

/-! ## Tokens -/

/-- Whether a character separates tokens and is nothing by itself. -/
def isGap (c : Char) : Bool := c == ' ' || c == '\t' || c == '\r' || c == '\x0b' || c == '\x0c'

/-- Whether a character starts a word. -/
def startsWord (c : Char) : Bool := c == '_' || isIdentifierStart c

/-- The sort of the token at the front, and what is left after it.  A block comment that is not
closed is no comment. -/
def matchToken (cs : List Char) : Option (TokenKind × List Char) :=
  match cs with
  | [] => none
  | '\n' :: rest => some (.lineEnd, rest)
  | '/' :: '/' :: rest => some (.comment, skipLineComment rest)
  | '/' :: '*' :: rest =>
    match skipBlockComment rest with
    | some rest => some (.comment, rest)
    | none => some (.symbol, '*' :: rest)
  | '"' :: rest => (skipString (rest.length + 1) rest).map (.string, ·)
  | '\x60' :: rest => (skipRawString rest).map (.string, ·)
  | '\'' :: rest => (skipRune rest).map (.rune, ·)
  | c :: rest =>
    if startsWord c then some (.word, rest.dropWhile isIdentifierContinue)
    else
      match number (c :: rest) with
      | some rest => some (.number, rest)
      | none => (symbol (c :: rest)).map (.symbol, ·)

/-- A place in a source: row, and column in bytes, both counted from zero. -/
structure Place where
  /-- The row. -/
  row : Nat := 0
  /-- The column. -/
  column : Nat := 0
deriving DecidableEq, Repr

/-- The place after one more character. -/
def Place.after (p : Place) (c : Char) : Place :=
  if c = '\n' then ⟨p.row + 1, 0⟩ else ⟨p.row, p.column + c.utf8Size⟩

/-- The tokens of a text from a place on, of which so many characters at most are left; or the place
where it cannot be read. -/
def Token.scanFrom : Nat → Place → List Char → Except Place (List Token)
  | 0, _, _ => .ok []
  | _ + 1, _, [] => .ok []
  | fuel + 1, p, c :: cs =>
    if isGap c then Token.scanFrom fuel (p.after c) cs
    else
      match matchToken (c :: cs) with
      | none => .error p
      | some (kind, rest) =>
        let text := (c :: cs).take ((c :: cs).length - rest.length)
        let q := text.foldl Place.after p
        let endRow := if kind = .lineEnd then p.row else q.row
        match Token.scanFrom fuel q rest with
        | .error e => .error e
        | .ok tokens => .ok (⟨kind, String.ofList text, p.row, p.column, endRow⟩ :: tokens)

/-- The tokens of a source.  A byte-order mark at the front is no part of it. -/
def Token.scan (source : List Char) : Except Place (List Token) :=
  let cs := match source with
    | '\uFEFF' :: cs => cs
    | cs => cs
  Token.scanFrom cs.length {} cs

end Codebook.Go
