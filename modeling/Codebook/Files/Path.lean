import Codebook.Text.Blank

/-!
# Paths

A path is a text whose parts stand between slashes.  An empty part and `.` go nowhere, `..` goes up,
and any other part is a name.
-/

set_option autoImplicit false

namespace Codebook.Path

open Text

/-- The parts of a path between its slashes. -/
def parts (path : String) : List String :=
  (cutAt (· == '/') path.toList).map String.ofList

/-- Whether a part goes somewhere. -/
def isStep (part : String) : Bool := !part.isEmpty && part != "."

/-- The parts of a path that go somewhere. -/
def steps (path : String) : List String := (parts path).filter isStep

/-- Whether a path starts at the top of the files. -/
def isAbsolute (path : String) : Bool := path.toList.head? == some '/'

/-- The name of the file that a path leads to. -/
def fileName? (path : String) : Option String := (steps path).getLast?.filter (· != "..")

/-- What stands after the last dot of a name, where something stands before that dot. -/
def extensionOf? (name : String) : Option String :=
  let reversed := name.toList.reverse
  match reversed.dropWhile (· != '.') with
  | '.' :: _ :: _ => some (String.ofList (reversed.takeWhile (· != '.')).reverse)
  | _ => none

/-- The extension of the file that a path leads to. -/
def extension? (path : String) : Option String := (fileName? path).bind extensionOf?

/-- A path, and another one from there. -/
def join (path next : String) : String :=
  if isAbsolute next then next
  else if path.isEmpty || path.endsWith "/" then path ++ next
  else path ++ "/" ++ next

/-- Names with slashes between them. -/
def ofNames (names : List String) : String := String.intercalate "/" names

end Codebook.Path
