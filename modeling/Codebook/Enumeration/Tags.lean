import Codebook.Enumeration.Group
import Codebook.Text.Blank
import Codebook.Text.Lowercase
import Codebook.Text.Search

/-!
# Names, keywords and tags

What the names and comments of a group tell: the words of a name, the base that its members' names
have in common, the keywords of a text, the category of the group, and its tags.
-/

set_option autoImplicit false

namespace Codebook

open Text

/-! ## Names -/

/-- The words of a name whose characters in `current` are read, last one first. -/
def camelWordsFrom (current : List Char) : List Char → List (List Char)
  | [] => if current.isEmpty then [] else [current.reverse]
  | c :: cs =>
    if isUppercase c && !current.isEmpty then current.reverse :: camelWordsFrom [c] cs
    else camelWordsFrom (c :: current) cs

/-- The words of a name, each of which starts with a capital letter but maybe the first. -/
def camelWords (name : List Char) : List (List Char) := camelWordsFrom [] name

/-- What stands before the last ASCII capital of a name, or the whole name if nothing does. -/
def baseName (name : List Char) : List Char :=
  match (name.reverse.dropWhile fun c => !c.isUpper).drop 1 with
  | [] => name
  | c :: before => (c :: before).reverse

/-! ## Keywords -/

/-- Words that are no keywords. -/
def stopWords : List String := ["the", "a", "an", "and", "or", "in", "on", "at", "to", "for"]

/-- Punctuation that does not belong to the word it stands beside. -/
def isKeywordEdge (c : Char) : Bool := ",.()[]\x7b\x7d\"'".toList.contains c

/-- The keywords of a text: its words in lower case, without punctuation around them, that are
longer than two bytes and no stop words. -/
def keywords (text : List Char) : List String :=
  ((words (lowercase text)).map fun w => String.ofList (trimWhile isKeywordEdge w)).filter fun w =>
    2 < w.utf8ByteSize && !stopWords.contains w

/-! ## Groups -/

/-- What a name says that its group is about.  Of several words the first of the list counts. -/
def Category.infer (name : List Char) : Category :=
  let name := lowercase name
  let has (word : String) : Bool := containsText word.toList name
  if has "status" || has "state" then .status
  else if has "type" then .type
  else if has "flag" then .flag
  else if has "mode" then .mode
  else if has "level" then .level
  else .other

/-- The words of a name in lower case. -/
def nameTags (name : String) : List String :=
  (camelWords name.toList).map fun w => String.ofList (lowercase w)

namespace Group

/-- The tags of a group: the words of its name and of the names of its members, and the keywords of
its description and of the comments. -/
def tagList (g : Group) : List String :=
  nameTags g.name ++ g.members.flatMap (fun m => nameTags m.name) ++
    keywords g.description.toList ++ g.members.flatMap fun m => keywords m.comment.toList

/-- The tags of a group as a set. -/
def generateTags (g : Group) : TagSet := TagSet.ofList g.tagList

end Group

end Codebook
