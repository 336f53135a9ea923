import Codebook.Text.Hexadecimal

/-!
# The grammar of JSON

Which texts are JSON, and what they say.  Blanks may stand around every value, key and mark.  In a
string, characters from the space on stand for themselves, but for the quote and the backslash; an
escape gives a character by a letter or by the four hexadecimal digits of a UTF-16 unit, and two
units that belong together give one character.  A number is kept as it is written.

What is here: `Datum`, what a text says; `IsBody`, `IsNumber` and `Denotes`, the grammar; and
`IsText`, a whole text.
-/

set_option autoImplicit false

namespace Codebook.Json

open Text

/-- What a JSON text says.  The fields of an object are in the order of the text. -/
inductive Datum where
  | null
  | bool (b : Bool)
  /-- A number, as it is written. -/
  | number (text : String)
  | string (s : String)
  | array (items : List Datum)
  | object (fields : List (String × Datum))

/-! ## Blanks -/

/-- Whether a character is a blank of JSON. -/
def isSpace (c : Char) : Bool := c == ' ' || c == '\t' || c == '\n' || c == '\r'

/-- A text of blanks. -/
def IsBlank (cs : List Char) : Prop := ∀ c ∈ cs, isSpace c = true

theorem isBlank_nil : IsBlank [] := List.forall_mem_nil _

theorem IsBlank.cons {c : Char} {cs : List Char} (hc : isSpace c = true) (h : IsBlank cs) :
    IsBlank (c :: cs) :=
  List.forall_mem_cons.2 ⟨hc, h⟩

/-! ## Strings -/

/-- The escapes by a letter, and what they stand for. -/
def namedEscapes : List (Char × Char) :=
  [('"', '"'), ('\\', '\\'), ('/', '/'), ('b', '\x08'), ('f', '\x0c'), ('n', '\n'), ('r', '\r'),
    ('t', '\t')]

/-- Whether a unit is the first of two that belong together. -/
def isHighUnit (n : Nat) : Bool := 0xD800 ≤ n && n ≤ 0xDBFF

/-- Whether a unit is the second of two that belong together. -/
def isLowUnit (n : Nat) : Bool := 0xDC00 ≤ n && n ≤ 0xDFFF

/-- The number of the character that two units give. -/
def pairNumber (high low : Nat) : Nat := 0x10000 + (high - 0xD800) * 0x400 + (low - 0xDC00)

/-- What stands between the quotes of a string, and the string. -/
inductive IsBody : List Char → List Char → Prop
  /-- Nothing. -/
  | nil : IsBody [] []
  /-- A character that stands for itself. -/
  | plain {c : Char} {cs s : List Char} (hc : 0x20 ≤ c.toNat) (hquote : c ≠ '"')
    (hbackslash : c ≠ '\\') (h : IsBody cs s) : IsBody (c :: cs) (c :: s)
  /-- An escape by a letter. -/
  | named {e c : Char} {cs s : List Char} (he : (e, c) ∈ namedEscapes) (h : IsBody cs s) :
    IsBody ('\\' :: e :: cs) (c :: s)
  /-- A unit that gives a character by itself. -/
  | unit {d₁ d₂ d₃ d₄ : Char} {n : Nat} {cs s : List Char}
    (hn : hexFrom? 0 [d₁, d₂, d₃, d₄] = some n) (hhigh : isHighUnit n = false)
    (hlow : isLowUnit n = false) (h : IsBody cs s) :
    IsBody ('\\' :: 'u' :: d₁ :: d₂ :: d₃ :: d₄ :: cs) (Char.ofNat n :: s)
  /-- Two units that give a character together. -/
  | pair {d₁ d₂ d₃ d₄ e₁ e₂ e₃ e₄ : Char} {n m : Nat} {cs s : List Char}
    (hn : hexFrom? 0 [d₁, d₂, d₃, d₄] = some n) (hhigh : isHighUnit n = true)
    (hm : hexFrom? 0 [e₁, e₂, e₃, e₄] = some m) (hlow : isLowUnit m = true) (h : IsBody cs s) :
    IsBody ('\\' :: 'u' :: d₁ :: d₂ :: d₃ :: d₄ :: '\\' :: 'u' :: e₁ :: e₂ :: e₃ :: e₄ :: cs)
      (Char.ofNat (pairNumber n m) :: s)

/-! ## Numbers -/

/-- One digit or more. -/
def IsDigits (cs : List Char) : Prop := cs ≠ [] ∧ ∀ c ∈ cs, c.isDigit = true

/-- The whole part of a number, which starts with a zero only if it is one. -/
inductive IsWhole : List Char → Prop
  | zero : IsWhole ['0']
  | digits {cs : List Char} (h : IsDigits cs) (hzero : cs.head? ≠ some '0') : IsWhole cs

/-- The fraction of a number, if it has one. -/
inductive IsFraction : List Char → Prop
  | none : IsFraction []
  | digits {cs : List Char} (h : IsDigits cs) : IsFraction ('.' :: cs)

/-- The exponent of a number, if it has one. -/
inductive IsExponent : List Char → Prop
  | none : IsExponent []
  | digits {e : Char} {sign cs : List Char} (he : e ∈ ['e', 'E'])
    (hsign : sign ∈ [[], ['+'], ['-']]) (h : IsDigits cs) : IsExponent (e :: (sign ++ cs))

/-- A number. -/
inductive IsNumber : List Char → Prop
  | mk {sign whole fraction exponent : List Char} (hsign : sign ∈ [[], ['-']])
    (hwhole : IsWhole whole) (hfraction : IsFraction fraction) (hexponent : IsExponent exponent) :
    IsNumber (sign ++ (whole ++ (fraction ++ exponent)))

/-! ## Values -/

/-- A key up to its colon: a string with blanks around it. -/
inductive IsKey : List Char → String → Prop
  | mk {before body after key : List Char} (hbefore : IsBlank before) (h : IsBody body key)
    (hafter : IsBlank after) :
    IsKey (before ++ '"' :: (body ++ '"' :: after)) (String.ofList key)

/-- The values that are written without marks. -/
inductive IsBare : List Char → Datum → Prop
  | nullWord : IsBare "null".toList .null
  | trueWord : IsBare "true".toList (.bool true)
  | falseWord : IsBare "false".toList (.bool false)
  | number {cs : List Char} (h : IsNumber cs) : IsBare cs (.number (String.ofList cs))

/-- What a part of a text may say: a value; or the items of an array or the fields of an object, one
at least. -/
inductive Part where
  | value (v : Datum)
  | items (vs : List Datum)
  | fields (fs : List (String × Datum))

/-- What a part of a text says. -/
inductive Denotes : List Char → Part → Prop
  | bare {cs : List Char} {v : Datum} (h : IsBare cs v) : Denotes cs (.value v)
  | string {cs s : List Char} (h : IsBody cs s) :
    Denotes ('"' :: (cs ++ ['"'])) (.value (.string (String.ofList s)))
  | emptyArray {cs : List Char} (h : IsBlank cs) :
    Denotes ('[' :: (cs ++ [']'])) (.value (.array []))
  | array {cs : List Char} {vs : List Datum} (h : Denotes cs (.items vs)) :
    Denotes ('[' :: (cs ++ [']'])) (.value (.array vs))
  | emptyObject {cs : List Char} (h : IsBlank cs) :
    Denotes ('\x7b' :: (cs ++ ['\x7d'])) (.value (.object []))
  | object {cs : List Char} {fs : List (String × Datum)} (h : Denotes cs (.fields fs)) :
    Denotes ('\x7b' :: (cs ++ ['\x7d'])) (.value (.object fs))
  | lastItem {before cs after : List Char} {v : Datum} (hbefore : IsBlank before)
    (h : Denotes cs (.value v)) (hafter : IsBlank after) :
    Denotes (before ++ (cs ++ after)) (.items [v])
  | item {before cs after ds : List Char} {v : Datum} {vs : List Datum} (hbefore : IsBlank before)
    (h : Denotes cs (.value v)) (hafter : IsBlank after) (hmore : Denotes ds (.items vs)) :
    Denotes (before ++ (cs ++ (after ++ ',' :: ds))) (.items (v :: vs))
  | lastField {key before cs after : List Char} {k : String} {v : Datum} (hkey : IsKey key k)
    (hbefore : IsBlank before) (h : Denotes cs (.value v)) (hafter : IsBlank after) :
    Denotes (key ++ ':' :: (before ++ (cs ++ after))) (.fields [(k, v)])
  | field {key before cs after ds : List Char} {k : String} {v : Datum}
    {fs : List (String × Datum)} (hkey : IsKey key k) (hbefore : IsBlank before)
    (h : Denotes cs (.value v)) (hafter : IsBlank after) (hmore : Denotes ds (.fields fs)) :
    Denotes (key ++ ':' :: (before ++ (cs ++ (after ++ ',' :: ds)))) (.fields ((k, v) :: fs))

/-- A JSON text, and what it says. -/
inductive IsText : List Char → Datum → Prop
  | mk {before cs after : List Char} {v : Datum} (hbefore : IsBlank before)
    (h : Denotes cs (.value v)) (hafter : IsBlank after) : IsText (before ++ (cs ++ after)) v

/-! ## What follows an item or a field -/

/-- What follows an item of an array or a field of an object up to the end, and what it holds. -/
inductive IsTail {α : Type} (part : List α → Part) : List Char → List α → Prop
  | last {cs : List Char} (h : IsBlank cs) : IsTail part cs []
  | more {cs ds : List Char} {xs : List α} (h : IsBlank cs) (hmore : Denotes ds (part xs)) :
    IsTail part (cs ++ ',' :: ds) xs

theorem IsTail.cons {α : Type} {part : List α → Part} {c : Char} {cs : List Char} {xs : List α}
    (hc : isSpace c = true) (h : IsTail part cs xs) : IsTail part (c :: cs) xs := by
  cases h with
  | last h => exact .last (h.cons hc)
  | more h hmore => exact .more (h.cons hc) hmore

section

variable {before cs tail : List Char} {v : Datum}

/-- An item and what follows it are items. -/
theorem denotes_items {vs : List Datum} (hbefore : IsBlank before) (h : Denotes cs (.value v))
    (htail : IsTail .items tail vs) : Denotes (before ++ (cs ++ tail)) (.items (v :: vs)) := by
  cases htail with
  | last hafter => exact .lastItem hbefore h hafter
  | more hafter hmore => exact .item hbefore h hafter hmore

/-- A field and what follows it are fields. -/
theorem denotes_fields {key : List Char} {k : String} {fs : List (String × Datum)}
    (hkey : IsKey key k) (hbefore : IsBlank before) (h : Denotes cs (.value v))
    (htail : IsTail .fields tail fs) :
    Denotes (key ++ ':' :: (before ++ (cs ++ tail))) (.fields ((k, v) :: fs)) := by
  cases htail with
  | last hafter => exact .lastField hkey hbefore h hafter
  | more hafter hmore => exact .field hkey hbefore h hafter hmore

end

end Codebook.Json
