import Codebook.Enumeration.TagSet

/-!
# Enumeration groups

A group is a declaration of constants or variables that has been marked for the document.  The same
group may be met in several files; the sightings are merged.
-/

set_option autoImplicit false

namespace Codebook

/-- The word that declares a group. -/
inductive DeclarationKind where
  | const
  | var
deriving DecidableEq, Repr

/-- The word as it is written. -/
def DeclarationKind.name : DeclarationKind → String
  | const => "const"
  | var => "var"

/-- What a group is about, as far as its name tells. -/
inductive Category where
  | status
  | type
  | flag
  | mode
  | level
  | other
deriving DecidableEq, Repr

/-- The name of a category. -/
def Category.name : Category → String
  | status => "status"
  | type => "type"
  | flag => "flag"
  | mode => "mode"
  | level => "level"
  | other => "other"

/-- The value that a member is declared with. -/
inductive Value where
  /-- A literal, as it is written. -/
  | literal (text : String)
  /-- A name. -/
  | identifier (text : String)
  /-- A name of another package. -/
  | qualified (qualifier selector : String)
  /-- No value, or a composite expression. -/
  | absent
deriving DecidableEq, Repr

/-- The value as it is displayed. -/
def Value.display : Value → String
  | literal text => text
  | identifier text => text
  | qualified qualifier selector => qualifier ++ "." ++ selector
  | absent => ""

/-- A member of a group. -/
structure Member where
  /-- The name. -/
  name : String
  /-- The value. -/
  value : Value
  /-- The comment. -/
  comment : String
deriving DecidableEq, Repr

/-- A group of constants or variables. -/
structure Group where
  /-- The name: a base, a space, and the description. -/
  name : String
  /-- The description. -/
  description : String
  /-- The package of the file. -/
  package : String
  /-- The file of the first sighting. -/
  file : String
  /-- How it is declared. -/
  kind : DeclarationKind
  /-- The members, in the order in which they were met. -/
  members : List Member
  /-- The tags. -/
  tags : TagSet := .empty
  /-- The category. -/
  category : Category
deriving DecidableEq

namespace Group

/-- The member with a given name. -/
def member? (g : Group) (name : String) : Option Member := g.members.find? (·.name == name)

/-- Puts a member at the end, unless there is one of its name. -/
def addMember (members : List Member) (m : Member) : List Member :=
  if members.any (·.name == m.name) then members else members ++ [m]

/-- The description with a later one on a line of its own, unless that is empty or the same. -/
def joinDescription (old new : String) : String :=
  if new.isEmpty || new == old then old else old ++ "\n" ++ new

/-- The group with what a later sighting adds: members and tags that are new, and its description if
that differs. -/
def merge (g other : Group) : Group :=
  { g with
    description := joinDescription g.description other.description
    members := other.members.foldl addMember g.members
    tags := g.tags.union other.tags }

end Group

end Codebook
