import Codebook.Sql.Dialect
import Codebook.Sql.Lexeme
import Codebook.Text.Hexadecimal
import Codebook.Text.Letter.Alphabetic

/-!
# Reading lexemes

The lexer takes one lexeme after another off the front of a text.  Each part of it returns what is
left; an error keeps what is left at its place, so that no part counts lines.

A string closes at its quote, unless the quote is written twice.  A backslash escapes within `N'…'`
and `X'…'`, within plain strings in MySQL, and within `E'…'` by rules of its own.

Main definition: `Lexeme.scan`.
-/

set_option autoImplicit false

namespace Codebook.Sql

open Codebook.Text

/-! ## Characters of words -/

namespace Dialect

/-- Whether a character starts a word. -/
def isWordStart (d : Dialect) (c : Char) : Bool :=
  match d with
  | postgreSql => isAlphabetic c || c == '_'
  | mySql =>
    isAlphabetic c || c == '_' || c == '$' || c == '@' ||
      (0x80 ≤ c.toNat && c.toNat ≤ 0xFFFF)

/-- Whether a character continues a word. -/
def isWordPart (d : Dialect) (c : Char) : Bool :=
  match d with
  | postgreSql => isAlphabetic c || c.isDigit || c == '$' || c == '_'
  | mySql => d.isWordStart c || c.isDigit

/-- The mark around quoted names. -/
def nameMark : Dialect → Char
  | postgreSql => '"'
  | mySql => '\x60'

/-- Whether a backslash escapes within a plain string. -/
def hasBackslashEscapes : Dialect → Bool
  | postgreSql => false
  | mySql => true

/-- Whether a character continues an operator of the dialect's own making. -/
def isOperatorPart (d : Dialect) (c : Char) : Bool :=
  match d with
  | postgreSql => "+-*/<>=~!@#%^&|\x60?".toList.contains c
  | mySql => false

end Dialect

/-! ## Quoted texts -/

/-- What a character stands for after a backslash. -/
def unescape (c : Char) : Char :=
  match c with
  | '0' => '\x00'
  | 'a' => '\x07'
  | 'b' => '\x08'
  | 'f' => '\x0c'
  | 'n' => '\n'
  | 'r' => '\r'
  | 't' => '\t'
  | 'Z' => '\x1a'
  | c => c

/-- Puts a character before a text that has been read. -/
def consRead (c : Char) (r : List Char × List Char) : List Char × List Char := (c :: r.1, r.2)

/-- The text up to the closing mark, and what follows the mark. -/
def readQuoted (mark : Char) (escapes : Bool) : List Char → Option (List Char × List Char)
  | [] => none
  | c :: cs =>
    if c = mark then
      match cs with
      | [] => some ([], [])
      | d :: ds => if d = mark then (readQuoted mark escapes ds).map (consRead mark)
        else some ([], d :: ds)
    else if escapes = true ∧ c = '\\' then
      match cs with
      | [] => none
      | d :: ds => (readQuoted mark escapes ds).map (consRead (unescape d))
    else (readQuoted mark escapes cs).map (consRead c)

/-- The number that hexadecimal digits stand for, with a plus sign before them or not. -/
def hexNumber? (digits : List Char) : Option Nat :=
  let digits := match digits with
    | '+' :: rest => rest
    | _ => digits
  if digits.isEmpty then none
  else hexFrom? 0 digits

/-- The character with a code point, if there is one. -/
def charOfNat? (n : Nat) : Option Char :=
  if n.isValidChar then some (Char.ofNat n) else none

/-- The character of an escape that gives a byte.  Higher bits are lost, and only ASCII is allowed,
without the null character. -/
def byteChar? (n : Nat) : Option Char :=
  let byte := n % 256
  if byte = 0 ∨ 127 < byte then none else some (Char.ofNat byte)

/-- The character of a Unicode escape; the null character is not allowed. -/
def escapedChar? (digits : List Char) : Option Char :=
  match (hexNumber? digits).bind charOfNat? with
  | some c => if c = '\x00' then none else some c
  | none => none

/-- Whether a character is an octal digit. -/
def isOctalDigit (c : Char) : Bool := '0' ≤ c && c ≤ '7'

/-- The value of octal digits. -/
def octalNumber (digits : List Char) : Nat :=
  digits.foldl (fun n c => n * 8 + (c.toNat - '0'.toNat)) 0

/-- What an escape with a letter of its own stands for. -/
def escapeOf (c : Char) : Char :=
  match c with
  | 'b' => '\x08'
  | 'f' => '\x0c'
  | 'n' => '\n'
  | 'r' => '\r'
  | 't' => '\t'
  | c => c

/-- Puts the character of an escape, if there is one, before a text that has been read. -/
def consEscape (c : Option Char) (r : Option (List Char × List Char)) :
    Option (List Char × List Char) :=
  match c, r with
  | some c, some r => some (consRead c r)
  | _, _ => none

/-- The text of an escaped string up to its closing quote, and what follows the quote. -/
def readEscaped : List Char → Option (List Char × List Char)
  | [] => none
  | '\'' :: cs =>
    match cs with
    | '\'' :: ds => (readEscaped ds).map (consRead '\'')
    | _ => some ([], cs)
  | '\\' :: cs =>
    match cs with
    | [] => none
    | 'u' :: cs =>
      match cs with
      | a :: b :: c :: d :: rest => consEscape (escapedChar? [a, b, c, d]) (readEscaped rest)
      | _ => none
    | 'U' :: cs =>
      match cs with
      | a :: b :: c :: d :: e :: f :: g :: h :: rest =>
        consEscape (escapedChar? [a, b, c, d, e, f, g, h]) (readEscaped rest)
      | _ => none
    | 'x' :: cs =>
      match cs with
      | [] => none
      | a :: as =>
        match hexDigit? a with
        | none => (readEscaped (a :: as)).map (consRead 'x')
        | some high =>
          match as with
          | [] => none
          | b :: rest =>
            match hexDigit? b with
            | none => consEscape (byteChar? high) (readEscaped (b :: rest))
            | some low => consEscape (byteChar? (high * 16 + low)) (readEscaped rest)
    | a :: as =>
      if isOctalDigit a then
        match as with
        | [] => none
        | b :: bs =>
          if isOctalDigit b then
            match bs with
            | [] => none
            | c :: rest =>
              if isOctalDigit c then
                consEscape (byteChar? (octalNumber [a, b, c])) (readEscaped rest)
              else consEscape (byteChar? (octalNumber [a, b])) (readEscaped (c :: rest))
          else consEscape (byteChar? (octalNumber [a])) (readEscaped (b :: bs))
      else if a = '\x00' then none
      else (readEscaped as).map (consRead (escapeOf a))
  | c :: cs => (readEscaped cs).map (consRead c)

/-- The character of an escape with a given number of hexadecimal digits, and what follows. -/
def readHexDigits (value : Nat) : Nat → List Char → Except LexicalError (Char × List Char)
  | 0, rest =>
    match charOfNat? value with
    | some c => .ok (c, rest)
    | none => .error ⟨.badCodePoint value, rest⟩
  | _ + 1, [] => .error ⟨.endInUnicodeEscape, []⟩
  | n + 1, c :: rest =>
    match hexDigit? c with
    | some d => readHexDigits (value * 16 + d) n rest
    | none => .error ⟨.badHexDigit c, rest⟩

/-- What follows a string with Unicode escapes, read for so many characters at most. -/
def skipUnicode : Nat → List Char → Except LexicalError (List Char)
  | 0, _ => .error ⟨.openUnicode, []⟩
  | _ + 1, [] => .error ⟨.openUnicode, []⟩
  | fuel + 1, c :: cs =>
    if c = '\'' then
      match cs with
      | '\'' :: rest => skipUnicode fuel rest
      | _ => .ok cs
    else if c = '\\' then
      match cs with
      | '\\' :: rest => skipUnicode fuel rest
      | '+' :: rest => do
        let (_, rest) ← readHexDigits 0 6 rest
        skipUnicode fuel rest
      | _ => do
        let (_, rest) ← readHexDigits 0 4 cs
        skipUnicode fuel rest
    else skipUnicode fuel cs

/-! ## Dollars -/

/-- What follows the second of the double dollars that close a string. -/
def skipDollars : List Char → Option (List Char)
  | [] => none
  | '$' :: '$' :: rest => some rest
  | _ :: rest => skipDollars rest

/-- What is left after a tag, or what is left where the text differs from it. -/
def matchTag : List Char → List Char → Except (List Char) (List Char)
  | [], rest => .ok rest
  | _ :: _, [] => .error []
  | c :: cs, d :: rest => if d = c then matchTag cs rest else .error rest

/-- What follows a string between tagged dollars, read for so many characters at most. -/
def skipTagged (tag : List Char) : Nat → List Char → Option (List Char)
  | 0, _ => none
  | fuel + 1, cs =>
    match cs.dropWhile (· != '$') with
    | [] => none
    | _ :: rest =>
      match matchTag tag rest with
      | .ok ('$' :: rest) => some rest
      | .ok rest => skipTagged tag fuel rest
      | .error rest => skipTagged tag fuel rest

/-- What follows a dollar: a string between dollars, or a numbered parameter. -/
def skipDollarValue (cs : List Char) : Except LexicalError (List Char) :=
  match cs with
  | '$' :: rest =>
    match skipDollars rest with
    | some rest => .ok rest
    | none => .error ⟨.openDollar, []⟩
  | _ =>
    let isTag := fun c => isAlphanumeric c || c == '_'
    let tag := cs.takeWhile isTag
    match cs.dropWhile isTag with
    | '$' :: rest =>
      match skipTagged tag (rest.length + 1) rest with
      | some rest => .ok rest
      | none => .error ⟨.openTaggedDollar, []⟩
    | rest => .ok rest

/-! ## Comments -/

/-- What follows the end of a line comment. -/
def skipLineComment (d : Dialect) : List Char → List Char
  | [] => []
  | c :: cs =>
    if c = '\n' ∨ (c = '\r' ∧ d = .postgreSql) then cs else skipLineComment d cs

/-- What follows a block comment, in which so many others are open.  The two characters of a mark
may serve for the next mark as well. -/
def skipBlockComment (opened : Nat) (last : Char) : List Char → Except LexicalError (List Char)
  | [] => .error ⟨.openComment, []⟩
  | c :: cs =>
    if last = '/' ∧ c = '*' then skipBlockComment (opened + 1) c cs
    else if last = '*' ∧ c = '/' then
      match opened with
      | 0 => .ok cs
      | opened + 1 => skipBlockComment opened c cs
    else skipBlockComment opened c cs

/-! ## Numbers -/

/-- What follows an exponent, if digits follow the letter and sign at the front. -/
def skipExponent? (cs : List Char) : Option (List Char) :=
  let unsigned := match cs with
    | '+' :: rest => rest
    | '-' :: rest => rest
    | _ => cs
  match unsigned with
  | c :: rest => if c.isDigit then some (rest.dropWhile Char.isDigit) else none
  | [] => none

/-- Reads what starts with a digit or a period.  In MySQL word characters right after a number make
it a word, unless the first of them might start an exponent. -/
def readNumber (d : Dialect) (cs : List Char) : Lexeme × List Char :=
  let whole := cs.takeWhile Char.isDigit
  let afterWhole := cs.dropWhile Char.isDigit
  match whole, afterWhole with
  | ['0'], 'x' :: rest => (.other, rest.dropWhile fun c => (hexDigit? c).isSome)
  | _, _ =>
    let (point, afterPoint) := match afterWhole with
      | '.' :: rest => (['.'], rest)
      | _ => ([], afterWhole)
    let digits := whole ++ point ++ afterPoint.takeWhile Char.isDigit
    let rest := afterPoint.dropWhile Char.isDigit
    if digits == ['.'] then (.period, rest)
    else
      match rest with
      | c :: after =>
        if c == 'e' || c == 'E' then
          match skipExponent? after with
          | some ('L' :: rest) => (.other, rest)
          | some rest => (.other, rest)
          | none => (.other, rest)
        else if d = .mySql ∧ d.isWordPart c then
          (.word (String.ofList (digits ++ rest.takeWhile d.isWordPart)) none,
            rest.dropWhile d.isWordPart)
        else if c == 'L' then (.other, after)
        else (.other, rest)
      | [] => (.other, [])

/-! ## One lexeme -/

/-- Reads a word that starts with the given characters. -/
def readWord (d : Dialect) (start cs : List Char) : Lexeme × List Char :=
  (.word (String.ofList (start ++ cs.takeWhile d.isWordPart)) none, cs.dropWhile d.isWordPart)

/-- Reads a string whose opening mark is the first of `cs`. -/
def readText (mark : Char) (escapes : Bool) (make : String → Lexeme) (cs : List Char) :
    Except LexicalError (Option Lexeme × List Char) :=
  match readQuoted mark escapes (cs.drop 1) with
  | some (value, rest) => .ok (some (make (String.ofList value)), rest)
  | none => .error ⟨.openText, cs⟩

/-- An operator, with the characters after it that the dialect counts to it. -/
def readOperator (d : Dialect) (rest : List Char) :
    Except LexicalError (Option Lexeme × List Char) :=
  .ok (some .other, rest.dropWhile d.isOperatorPart)

/-- Reads what starts with an at sign.  In MySQL the sign and the character after it start a
word. -/
def readAtSign (d : Dialect) (rest : List Char) : Except LexicalError (Option Lexeme × List Char) :=
  let word (start : List Char) (rest : List Char) :
      Except LexicalError (Option Lexeme × List Char) :=
    match d with
    | .postgreSql => readOperator d (start.drop 1 ++ rest)
    | .mySql => let (w, rest) := readWord d start rest; .ok (some w, rest)
  match rest with
  | '>' :: _ => readOperator d (rest.drop 1)
  | '?' :: _ => readOperator d (rest.drop 1)
  | '@' :: ' ' :: _ => .ok (some .other, rest.drop 1)
  | '@' :: c :: rest => word ['@', '@', c] rest
  | '@' :: [] => .ok (some .other, [])
  | [] => .ok (some .other, [])
  | c :: more =>
    if c == ' ' || c == '\'' || c == '"' || c == '\x60' then .ok (some .other, rest)
    else word ['@', c] more

/-- Reads what starts with an operator character, of which some make an operator with the next one
that nothing can be added to. -/
def readSymbol (d : Dialect) (c : Char) (rest : List Char) :
    Except LexicalError (Option Lexeme × List Char) :=
  match c, rest with
  | '-', '-' :: rest => .ok (none, skipLineComment d rest)
  | '/', '*' :: rest => (skipBlockComment 0 ' ' rest).map fun rest => (none, rest)
  | '#', rest =>
    match d, rest with
    | .mySql, _ => .ok (none, skipLineComment d rest)
    | .postgreSql, ' ' :: _ => .ok (some .other, rest)
    | .postgreSql, _ => readOperator d rest
  | '@', rest => readAtSign d rest
  | '?', rest =>
    match d with
    | .postgreSql => .ok (some .other, rest.drop 1)
    | .mySql => .ok (some .other, rest.dropWhile isNumeric)
  | '%', c :: _ => if isBlank c then .ok (some .other, rest) else readOperator d rest
  | '=', c :: more => .ok (some .other, if c == '>' || c == '=' then more else rest)
  | '^', c :: more => .ok (some .other, if c == '@' then more else rest)
  | ':', c :: more => .ok (some .other, if c == ':' || c == '=' then more else rest)
  | '!', c :: more =>
    if c == '=' || c == '!' then .ok (some .other, more)
    else if c == '~' then
      let more := match more with
        | '~' :: more => more
        | _ => more
      .ok (some .other, match more with
        | '*' :: more => more
        | _ => more)
    else .ok (some .other, rest)
  | _, _ =>
    if c == '-' || c == '|' || c == '<' || c == '>' || c == '&' || c == '~' || c == '%' then
      readOperator d rest
    else .ok (some .other, rest)

/-- Reads one lexeme, or blanks or a comment, off a text that starts with `c`. -/
def readOne (d : Dialect) (c : Char) (rest : List Char) :
    Except LexicalError (Option Lexeme × List Char) :=
  let word (rest : List Char) : Except LexicalError (Option Lexeme × List Char) :=
    let (w, rest) := readWord d [c] rest
    .ok (some w, rest)
  if c == ' ' || c == '\t' || c == '\n' || c == '\r' then .ok (none, rest)
  else if c == 'b' || c == 'B' then
    match rest with
    | '\'' :: _ => readText '\'' false (fun _ => .other) rest
    | '"' :: _ => readText '"' false (fun _ => .other) rest
    | _ => word rest
  else if c == 'n' || c == 'N' then
    match rest with
    | '\'' :: _ => readText '\'' true (.text .national) rest
    | _ => word rest
  else if c == 'e' || c == 'E' then
    match rest with
    | '\'' :: text =>
      match readEscaped text with
      | some (value, rest) => .ok (some (.text .escaped (String.ofList value)), rest)
      | none => .error ⟨.openEscaped, c :: rest⟩
    | _ => word rest
  else if (c == 'u' || c == 'U') && d = .postgreSql then
    match rest with
    | '&' :: '\'' :: text => do
      let rest ← skipUnicode (text.length + 1) text
      .ok (some .other, rest)
    | _ => word rest
  else if c == 'x' || c == 'X' then
    match rest with
    | '\'' :: _ => readText '\'' true (fun _ => .other) rest
    | _ => word rest
  else if c == '\'' then readText '\'' d.hasBackslashEscapes (.text .plain) (c :: rest)
  else if c == d.nameMark then
    match readQuoted c false rest with
    | some (value, rest) => .ok (some (.word (String.ofList value) (some c)), rest)
    | none => .error ⟨.openName c, c :: rest⟩
  else if c == '"' then readText '"' d.hasBackslashEscapes (.text .double) (c :: rest)
  else if c.isDigit || c == '.' then
    let (lexeme, rest) := readNumber d (c :: rest)
    .ok (some lexeme, rest)
  else if "-/|=!<>:&^#~@?%".toList.contains c then readSymbol d c rest
  else if d.isWordStart c then word rest
  else if c == '$' then
    match skipDollarValue rest with
    | .ok rest => .ok (some .other, rest)
    | .error e => .error e
  else if isBlank c then .ok (none, rest)
  else .ok (some .other, rest)

/-! ## All lexemes -/

/-- The lexemes of a text of which so many characters at most are left. -/
def Lexeme.scanFrom (d : Dialect) : Nat → List Char → Except LexicalError (List Lexeme)
  | 0, _ => .ok []
  | _ + 1, [] => .ok []
  | fuel + 1, c :: cs =>
    match readOne d c cs with
    | .error e => .error e
    | .ok (lexeme, rest) =>
      match Lexeme.scanFrom d fuel rest with
      | .error e => .error e
      | .ok lexemes => .ok (lexeme.toList ++ lexemes)

/-- The lexemes of a text. -/
def Lexeme.scan (d : Dialect) (text : List Char) : Except LexicalError (List Lexeme) :=
  Lexeme.scanFrom d text.length text

end Codebook.Sql
