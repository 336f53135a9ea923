import Codebook.Files.Path

/-!
# Volumes

A volume is a tree of directories and files, as much of it as matters.  The address of a place in it
is the list of names that leads there from the top.  A path is followed from a directory part by
part: each part has to start from a directory, so a path through something that does not exist, or
through a file, leads nowhere.

What is here: `Volume`, with `resolve`, `read?` and `filesBelow` to look at it, and
`makeDirectories` and `write?` to change it.
-/

set_option autoImplicit false

namespace Codebook

/-- The address of a place: the names that lead there from the top. -/
abbrev Address := List String

/-- What may stand at a place. -/
inductive Entry where
  /-- A file with its bytes. -/
  | file (content : List UInt8)
  /-- A directory. -/
  | directory
deriving DecidableEq, Repr

/-- A tree of directories and files. -/
structure Volume where
  /-- What stands below the top, each place listed once. -/
  entries : List (Address × Entry) := []
deriving DecidableEq, Repr

namespace Volume

/-! ## Entries -/

/-- What stands at a place. -/
def entry? (v : Volume) (place : Address) : Option Entry :=
  if place = [] then some .directory
  else (v.entries.find? fun e => e.1 == place).map Prod.snd

/-- Whether there is a directory at a place. -/
def hasDirectory (v : Volume) (place : Address) : Bool := v.entry? place == some .directory

/-- Puts an entry in the place of another one, or at the end of the list. -/
def putIn (place : Address) (e : Entry) : List (Address × Entry) → List (Address × Entry)
  | [] => [(place, e)]
  | old :: rest => if old.1 = place then (place, e) :: rest else old :: putIn place e rest

/-- The volume with an entry put at a place. -/
def put (v : Volume) (place : Address) (e : Entry) : Volume := ⟨putIn place e v.entries⟩

/-- The volume with directories from a place to another one below it, where there is nothing. -/
def putDirectories (v : Volume) (base : Address) : List String → Volume
  | [] => v
  | name :: names =>
    let place := base ++ [name]
    let v := if (v.entry? place).isSome then v else v.put place .directory
    v.putDirectories place names

/-- The volume with an entry put at a place, and the directories above it. -/
def install (v : Volume) (place : Address) (e : Entry) : Volume :=
  (v.putDirectories [] place.dropLast).put place e

/-! ## Following paths -/

/-- Follows the parts of a path from a place. -/
def follow (v : Volume) (base : Address) : List String → Option Address
  | [] => some base
  | part :: parts =>
    if v.hasDirectory base then
      if Path.isStep part then
        v.follow (if part = ".." then base.dropLast else base ++ [part]) parts
      else v.follow base parts
    else none

/-- The place that a path leads to, whether or not anything is there. -/
def resolve (v : Volume) (base : Address) (path : String) : Option Address :=
  if path.isEmpty then none
  else v.follow (if Path.isAbsolute path then [] else base) (Path.parts path)

/-- The bytes of the file that a path leads to. -/
def read? (v : Volume) (base : Address) (path : String) : Option (List UInt8) :=
  match (v.resolve base path).bind v.entry? with
  | some (.file content) => some content
  | _ => none

/-- The place of the directory that a path leads to. -/
def directory? (v : Volume) (base : Address) (path : String) : Option Address :=
  (v.resolve base path).filter v.hasDirectory

/-- What is left of a place below another one. -/
def below? : Address → Address → Option (List String)
  | [], rest => some rest
  | _ :: _, [] => none
  | a :: base, b :: rest => if a = b then below? base rest else none

/-- The files below a place, in the order of the names that lead to them. -/
def filesBelow (v : Volume) (base : Address) : List (List String × List UInt8) :=
  let found := v.entries.filterMap fun (place, e) =>
    match below? base place, e with
    | some names, .file content => some (names, content)
    | _, _ => none
  found.mergeSort fun a b => !b.1.lex a.1

/-! ## Changing -/

/-- Follows the parts of a path from a place, where missing directories are made. -/
def makeAlong (v : Volume) (base : Address) : List String → Option (Volume × Address)
  | [] => some (v, base)
  | part :: parts =>
    if !Path.isStep part then v.makeAlong base parts
    else if part = ".." then v.makeAlong base.dropLast parts
    else
      let next := base ++ [part]
      match v.entry? next with
      | some .directory => v.makeAlong next parts
      | some (.file _) => none
      | none => (v.put next .directory).makeAlong next parts

/-- The volume with the directories of a path, and the place that it leads to. -/
def makeDirectories (v : Volume) (base : Address) (path : String) : Option (Volume × Address) :=
  v.makeAlong (if Path.isAbsolute path then [] else base) (Path.parts path)

/-- The volume with a file written at a place, unless there is a directory. -/
def write? (v : Volume) (place : Address) (content : List UInt8) : Option Volume :=
  if v.hasDirectory place then none else some (v.put place (.file content))

/-- The entries of a volume that another one does not have. -/
def newEntries (v old : Volume) : List (Address × Entry) :=
  v.entries.filter fun (place, e) => old.entry? place != some e

end Volume

end Codebook
