/-!
# JSON texts

JSON values whose objects keep the order of their fields, and their two written forms: compact, and
laid out with two spaces for each level.  Only what has to be escaped in a string is escaped.
-/

set_option autoImplicit false

namespace Codebook

/-- A JSON value. -/
inductive Json where
  | null
  | number (n : Nat)
  | string (s : String)
  | array (items : List Json)
  | object (fields : List (String × Json))

namespace Json

/-- A string, or null where there is none. -/
def ofOption : Option String → Json
  | some s => string s
  | none => null

/-! ## Strings -/

/-- A hexadecimal digit. -/
def hexDigit (n : Nat) : Char :=
  if n < 10 then Char.ofNat (48 + n) else Char.ofNat (87 + n)

/-- A character as it is written within a string. -/
def escapeChar (c : Char) : List Char :=
  if c = '"' then ['\\', '"']
  else if c = '\\' then ['\\', '\\']
  else if c = '\x08' then ['\\', 'b']
  else if c = '\t' then ['\\', 't']
  else if c = '\n' then ['\\', 'n']
  else if c = '\x0c' then ['\\', 'f']
  else if c = '\r' then ['\\', 'r']
  else if c.toNat < 0x20 then
    ['\\', 'u', '0', '0', hexDigit (c.toNat / 16), hexDigit (c.toNat % 16)]
  else [c]

/-- A string as it is written. -/
def quote (s : String) : String :=
  "\"" ++ String.ofList (s.toList.flatMap escapeChar) ++ "\""

/-! ## The compact form -/

mutual

/-- The compact form of a value. -/
def compact : Json → String
  | null => "null"
  | number n => toString n
  | string s => quote s
  | array [] => "[]"
  | array (item :: items) => "[" ++ compact item ++ compactItems items ++ "]"
  | object [] => "\x7b\x7d"
  | object ((key, value) :: fields) =>
    "\x7b" ++ quote key ++ ":" ++ compact value ++ compactFields fields ++ "\x7d"

/-- The items after the first one. -/
def compactItems : List Json → String
  | [] => ""
  | item :: items => "," ++ compact item ++ compactItems items

/-- The fields after the first one. -/
def compactFields : List (String × Json) → String
  | [] => ""
  | (key, value) :: fields => "," ++ quote key ++ ":" ++ compact value ++ compactFields fields

end

/-! ## The laid-out form -/

/-- The start of a line at a level. -/
def indent (level : Nat) : String := "\n" ++ String.ofList (List.replicate (2 * level) ' ')

mutual

/-- The laid-out form of a value that stands at a level. -/
def pretty (level : Nat) : Json → String
  | null => "null"
  | number n => toString n
  | string s => quote s
  | array [] => "[]"
  | array (item :: items) =>
    "[" ++ indent (level + 1) ++ pretty (level + 1) item ++ prettyItems (level + 1) items ++
      indent level ++ "]"
  | object [] => "\x7b\x7d"
  | object ((key, value) :: fields) =>
    "\x7b" ++ indent (level + 1) ++ quote key ++ ": " ++ pretty (level + 1) value ++
      prettyFields (level + 1) fields ++ indent level ++ "\x7d"

/-- The items after the first one, each on a line of its own. -/
def prettyItems (level : Nat) : List Json → String
  | [] => ""
  | item :: items => "," ++ indent level ++ pretty level item ++ prettyItems level items

/-- The fields after the first one, each on a line of its own. -/
def prettyFields (level : Nat) : List (String × Json) → String
  | [] => ""
  | (key, value) :: fields =>
    "," ++ indent level ++ quote key ++ ": " ++ pretty level value ++ prettyFields level fields

end

/-- The text of a value, laid out. -/
def text (j : Json) : String := pretty 0 j

end Json

end Codebook
