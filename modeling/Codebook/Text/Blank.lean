import Codebook.Text.Range

/-!
# Blank characters, trimming and words

*Blank* is the Unicode property White_Space.  It is wider than the ASCII blanks: it holds the
no-break space and the ideographic space, which occur in hand-written comments.

What is here: `isBlank`, trimming at either end, and the list of `words` between blanks.
-/

set_option autoImplicit false

namespace Codebook.Text

/-- The ranges of the property White_Space. -/
def blankRanges : Ranges :=
  [(0x9, 0xD), (0x20, 0x20), (0x85, 0x85), (0xA0, 0xA0), (0x1680, 0x1680), (0x2000, 0x200A),
    (0x2028, 0x2029), (0x202F, 0x202F), (0x205F, 0x205F), (0x3000, 0x3000)]

/-- Whether a character is blank. -/
def isBlank (c : Char) : Bool := blankRanges.contains c

/-- The blanks of ASCII that separate words of a column declaration: space, tab, line feed, form
feed and carriage return. -/
def isAsciiBlank (c : Char) : Bool :=
  c == ' ' || c == '\t' || c == '\n' || c == '\x0c' || c == '\r'

/-- An ASCII blank is a blank. -/
theorem isBlank_of_isAsciiBlank {c : Char} (h : isAsciiBlank c = true) : isBlank c = true := by
  simp only [isAsciiBlank, Bool.or_eq_true, beq_iff_eq] at h
  rcases h with (((rfl | rfl) | rfl) | rfl) | rfl <;> decide

/-! ## Trimming -/

/-- The text without its leading characters in `p`. -/
def trimLeftWhile (p : Char → Bool) (cs : List Char) : List Char := cs.dropWhile p

/-- The text without its trailing characters in `p`. -/
def trimRightWhile (p : Char → Bool) (cs : List Char) : List Char :=
  (cs.reverse.dropWhile p).reverse

/-- The text without the characters in `p` at either end. -/
def trimWhile (p : Char → Bool) (cs : List Char) : List Char :=
  trimRightWhile p (trimLeftWhile p cs)

/-- The text without trailing blanks. -/
def trimRight (cs : List Char) : List Char := trimRightWhile isBlank cs

/-- The text without blanks at either end. -/
def trim (cs : List Char) : List Char := trimWhile isBlank cs

/-! ## Cutting -/

/-- Cuts a text at every character in `p`.  There is one part more than there are cuts. -/
def cutAt (p : Char → Bool) : List Char → List (List Char)
  | [] => [[]]
  | c :: cs =>
    if p c then [] :: cutAt p cs
    else
      match cutAt p cs with
      | [] => [[c]]
      | part :: parts => (c :: part) :: parts

/-- The non-empty parts between blanks. -/
def words (cs : List Char) : List (List Char) :=
  (cutAt isBlank cs).filter fun w => !w.isEmpty

/-- The line-feed separated parts of a text. -/
def cutLines (cs : List Char) : List (List Char) := cutAt (· == '\n') cs

/-- Joins texts with a separator. -/
def joinWith (sep : List Char) : List (List Char) → List Char
  | [] => []
  | [part] => part
  | part :: parts => part ++ sep ++ joinWith sep parts

/-- Cutting and joining with the separator are inverse. -/
theorem joinWith_cutAt (s : Char) (cs : List Char) :
    joinWith [s] (cutAt (· == s) cs) = cs := by
  induction cs with
  | nil => rfl
  | cons c cs ih =>
    by_cases h : c = s
    · subst h
      cases hc : cutAt (· == c) cs with
      | nil => simp [hc, joinWith] at ih; simp [cutAt, joinWith, ih]
      | cons part parts => rw [hc] at ih; simp [cutAt, hc, joinWith, ih]
    · cases hc : cutAt (· == s) cs with
      | nil => rw [hc] at ih; simp [cutAt, h, hc, joinWith] at ih ⊢; exact ih
      | cons part parts =>
        rw [hc] at ih
        cases parts with
        | nil => simp [cutAt, h, hc, joinWith] at ih ⊢; exact ih
        | cons q qs => simp [cutAt, h, hc, joinWith] at ih ⊢; exact ih

end Codebook.Text
