import Codebook.Text.Letter.Case
import Codebook.Text.Letter.Cased

/-!
# Lower case of a text

Every character is mapped by itself, but for the Greek capital sigma: at the end of a word it
becomes the final sigma.  It stands at the end of a word when the nearest character before it that
is not case-ignorable is cased, and the nearest such character after it is not.
-/

set_option autoImplicit false

namespace Codebook.Text

/-- Whether the nearest character that is not case-ignorable is cased. -/
def meetsCased (cs : List Char) : Bool :=
  match cs.dropWhile isCaseIgnorable with
  | c :: _ => isCased c
  | [] => false

/-- The lower case of `cs`, where `before` holds the characters read so far, last first. -/
def lowercaseAfter (before : List Char) : List Char → List Char
  | [] => []
  | c :: cs =>
    let image :=
      if c == 'Σ' then
        if meetsCased before && !meetsCased cs then ['ς'] else ['σ']
      else lowerOf c
    image ++ lowercaseAfter (c :: before) cs

/-- The lower case of a text. -/
def lowercase (cs : List Char) : List Char := lowercaseAfter [] cs

/-- The lower case of a string. -/
def lowercaseString (s : String) : String := String.ofList (lowercase s.toList)

/-- Whether two texts agree up to the case of ASCII letters. -/
def equalAsciiCase (a b : List Char) : Bool := a.map Char.toLower == b.map Char.toLower

end Codebook.Text
