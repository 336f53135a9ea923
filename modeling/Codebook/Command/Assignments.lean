import Codebook.Text.Hexadecimal

/-!
# Assignments of settings

The part of TOML that settings are written in: lines `key = value` where the value is a string or a
truth value, blank lines, and comments.  Everything else that TOML has, such as tables and numbers,
is no value of any setting, so a text with it is refused as a whole.

Strings have four forms.  Between double quotes a backslash escapes, between single quotes it does
not, and either quote written three times encloses a string of several lines.

What is here: `Scalar` and `assignments?`.
-/

set_option autoImplicit false

namespace Codebook.Command

open Text

/-- A value. -/
inductive Scalar where
  /-- A string. -/
  | text (s : String)
  /-- A truth value. -/
  | truth (b : Bool)
deriving DecidableEq, Repr

/-! ## Lines -/

/-- Whether a character is a space within a line. -/
def isLineSpace (c : Char) : Bool := c == ' ' || c == '\t'

/-- Whether a character may stand in a string or a comment. -/
def isPlain (c : Char) : Bool := c == '\t' || (' ' ≤ c && c != '\x7f')

/-- What follows a line end. -/
def afterLineEnd? : List Char → Option (List Char)
  | '\n' :: cs => some cs
  | '\r' :: '\n' :: cs => some cs
  | _ => none

/-- What follows a line on which there is nothing more than spaces and a comment. -/
def afterLine? (cs : List Char) : Option (List Char) :=
  let rest := match cs.dropWhile isLineSpace with
    | '#' :: cs => cs.dropWhile isPlain
    | cs => cs
  match rest with
  | [] => some []
  | _ => afterLineEnd? rest

/-! ## Strings -/

/-- The character whose number is written in so many digits, and what follows. -/
def numbered? (digits : Nat) (cs : List Char) : Option (Char × List Char) :=
  if cs.length < digits then none
  else
    match hexFrom? 0 (cs.take digits) with
    | none => none
    | some n => if n.isValidChar then some (Char.ofNat n, cs.drop digits) else none

/-- The character that stands after a backslash, and what follows. -/
def escaped? : List Char → Option (Char × List Char)
  | 'b' :: cs => some ('\x08', cs)
  | 't' :: cs => some ('\t', cs)
  | 'n' :: cs => some ('\n', cs)
  | 'f' :: cs => some ('\x0c', cs)
  | 'r' :: cs => some ('\r', cs)
  | '"' :: cs => some ('"', cs)
  | '\\' :: cs => some ('\\', cs)
  | 'u' :: cs => numbered? 4 cs
  | 'U' :: cs => numbered? 8 cs
  | _ => none

/-- Puts characters before a text that has been read. -/
def prepend (cs : List Char) : Option (List Char × List Char) → Option (List Char × List Char)
  | some (text, rest) => some (cs ++ text, rest)
  | none => none

/-- A string of one line up to its quote, and what follows; so many characters are read at most. -/
def lineString? (quote : Char) : Nat → List Char → Option (List Char × List Char)
  | 0, _ => none
  | _, [] => none
  | n + 1, c :: cs =>
    if c = quote then some ([], cs)
    else if c = '\\' ∧ quote = '"' then
      match escaped? cs with
      | some (e, rest) => prepend [e] (lineString? quote n rest)
      | none => none
    else if isPlain c then prepend [c] (lineString? quote n cs)
    else none

/-- What follows a backslash at the end of a line: the first character that is no blank. -/
def afterFold? (cs : List Char) : Option (List Char) :=
  match afterLineEnd? (cs.dropWhile isLineSpace) with
  | some rest => some (rest.dropWhile fun c => isLineSpace c || c == '\n' || c == '\r')
  | none => none

/-- A string of several lines up to its three quotes, and what follows.  One or two more quotes
before them belong to the string. -/
def blockString? (quote : Char) : Nat → List Char → Option (List Char × List Char)
  | 0, _ => none
  | _, [] => none
  | n + 1, c :: cs =>
    if c = quote then
      let run := (c :: cs).takeWhile (· == quote)
      let rest := (c :: cs).dropWhile (· == quote)
      if run.length < 3 then prepend run (blockString? quote n rest)
      else if run.length ≤ 5 then some (run.drop 3, rest)
      else none
    else
      match afterLineEnd? (c :: cs) with
      | some rest => prepend ['\n'] (blockString? quote n rest)
      | none =>
        if c = '\\' ∧ quote = '"' then
          match afterFold? cs with
          | some rest => blockString? quote n rest
          | none =>
            match escaped? cs with
            | some (e, rest) => prepend [e] (blockString? quote n rest)
            | none => none
        else if isPlain c then prepend [c] (blockString? quote n cs)
        else none

/-- A string in any of its forms, and what follows. -/
def string? (cs : List Char) : Option (List Char × List Char) :=
  match cs with
  | a :: rest =>
    if a = '"' ∨ a = '\'' then
      match rest with
      | b :: c :: inside =>
        if b = a ∧ c = a then
          blockString? a inside.length ((afterLineEnd? inside).getD inside)
        else lineString? a rest.length rest
      | _ => lineString? a rest.length rest
    else none
  | [] => none

/-! ## Assignments -/

/-- Whether a character may stand in a key without quotes. -/
def isKeyCharacter (c : Char) : Bool := c.isAlphanum || c == '_' || c == '-'

/-- A key, and what follows. -/
def key? (cs : List Char) : Option (List Char × List Char) :=
  match cs with
  | '"' :: rest => lineString? '"' rest.length rest
  | '\'' :: rest => lineString? '\'' rest.length rest
  | _ =>
    match cs.takeWhile isKeyCharacter with
    | [] => none
    | key => some (key, cs.dropWhile isKeyCharacter)

/-- A value, and what follows. -/
def scalar? : List Char → Option (Scalar × List Char)
  | 't' :: 'r' :: 'u' :: 'e' :: rest => some (.truth true, rest)
  | 'f' :: 'a' :: 'l' :: 's' :: 'e' :: rest => some (.truth false, rest)
  | cs => (string? cs).map fun (text, rest) => (.text (String.ofList text), rest)

/-- An assignment, and what follows its line. -/
def assignment? (cs : List Char) : Option ((String × Scalar) × List Char) := do
  let (key, rest) ← key? cs
  match rest.dropWhile isLineSpace with
  | '=' :: rest =>
    let (value, rest) ← scalar? (rest.dropWhile isLineSpace)
    let rest ← afterLine? rest
    return ((String.ofList key, value), rest)
  | _ => none

/-- The assignments of a text of at most so many lines. -/
def assignmentsFrom? : Nat → List Char → Option (List (String × Scalar))
  | 0, _ => none
  | n + 1, cs =>
    match cs.dropWhile isLineSpace with
    | [] => some []
    | cs =>
      match afterLine? cs with
      | some rest => assignmentsFrom? n rest
      | none => do
        let (entry, rest) ← assignment? cs
        let entries ← assignmentsFrom? n rest
        return entry :: entries

/-- The assignments of a text.  A byte-order mark at the front is no part of it. -/
def assignments? (source : List Char) : Option (List (String × Scalar)) :=
  let cs := match source with
    | '\uFEFF' :: cs => cs
    | cs => cs
  assignmentsFrom? (cs.length + 1) cs

end Codebook.Command
