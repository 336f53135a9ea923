import Codebook.Command.Settings
import Codebook.Survey

/-!
# Writing the document of a project

The Go files of a project are read first and its SQL files after them, each in the order of their
paths, so that the document does not depend on the order in which directories are listed.

What is here: `Outcome`, what running a command comes to, and `generate`.
-/

set_option autoImplicit false

namespace Codebook.Command

/-- What running a command comes to. -/
structure Outcome where
  /-- Why it failed, if it did. -/
  failure : Option Failure := none
  /-- Whether there was an error that did not make it fail. -/
  errors : Bool := false
  /-- What is printed. -/
  stdout : String := ""
  /-- What is said beside that. -/
  stderr : String := ""
  /-- The files afterwards. -/
  volume : Volume

/-- The exit code. -/
def Outcome.exitCode (o : Outcome) : Nat :=
  match o.failure with
  | some _ => 2
  | none => if o.errors then 1 else 0

/-! ## Finding the files -/

/-- The path under which the search for files goes on, after the parts of a path have been followed;
`none` is the working directory.  An empty part there leads nowhere. -/
def searchFrom : Option String → List String → Option (Option String)
  | base, [] => some base
  | none, part :: parts =>
    if part = "." then searchFrom none parts
    else if part.isEmpty then none
    else searchFrom (some part) parts
  | some base, part :: parts => searchFrom (some (Path.join base part)) parts

/-- The path under which the search in a directory starts. -/
def searchBase (root : String) : Option (Option String) :=
  if Path.isAbsolute root then searchFrom (some "/") ((Path.parts root).drop 1)
  else searchFrom none (Path.parts root)

/-- The path of a file that was found, as it is shown.  It is shown from the root on, but where the
root is written with a dot at the front, which the search leaves out, it is shown as it was
found. -/
def shownPath (root : String) (base : Option String) (names : List String) : String :=
  if (Path.parts root).head? = some "." then
    match base with
    | some base => Path.join base (Path.ofNames names)
    | none => Path.ofNames names
  else Path.ofNames names

/-- Whether the last of some names has an extension, where nothing needs to stand before it. -/
def hasEnding (kind : SourceKind) (names : List String) : Bool :=
  match names.getLast? with
  | some name => name.endsWith ("." ++ kind.extension)
  | none => false

/-- The files of a language in a directory, with their paths as they are shown. -/
def sourcesOf (v : Volume) (root : String) (address : Address) (kind : SourceKind) :
    List (String × List UInt8) :=
  match searchBase root with
  | none => []
  | some base =>
    ((v.filesBelow address).filter fun f => hasEnding kind f.1).map fun (names, bytes) =>
      (shownPath root base names, bytes)

/-- The files of a project, in the order in which they are read. -/
def sources (v : Volume) (root : String) (address : Address) : List (String × List UInt8) :=
  sourcesOf v root address .go ++ sourcesOf v root address .sql

/-! ## Reading the files -/

/-- Takes some files, and counts those whose language is known. -/
def survey (keepGoing : Bool) (s : Survey) (count : Nat) :
    List (String × List UInt8) → Except Go.ScanError (Survey × Nat)
  | [] => .ok (s, count)
  | (path, bytes) :: files =>
    match s.addFile path bytes with
    | .ok (s, known) => survey keepGoing s (if known then count + 1 else count) files
    | .error e => if keepGoing then survey keepGoing (s.record e) count files else .error e

/-! ## Writing the document -/

/-- The extension of a form of the document. -/
def DocumentFormat.extension : DocumentFormat → String
  | markdown => "md"
  | json => "json"

/-- The document in a form. -/
def DocumentFormat.document (format : DocumentFormat) (s : Survey) : String :=
  match format with
  | markdown => s.markdown
  | json => s.json

/-- The name of the project in a directory. -/
def projectName (address : Address) : String := address.getLast?.getD "root"

/-- The name of the file of a document. -/
def documentName (format : DocumentFormat) (address : Address) : String :=
  "knowledge_" ++ projectName address ++ "." ++ format.extension

/-- The files with a document written, or why it cannot be. -/
def writeDocument (scene : Scene) (output name document : String) : Except Failure Volume :=
  match scene.volume.makeDirectories scene.directory output with
  | none => .error (.unwritable output)
  | some (v, address) =>
    match v.write? (address ++ [name]) document.toUTF8.toList with
    | none => .error (.unwritable (Path.join output name))
    | some v => .ok v

/-- What is said of a document that has been written. -/
def report (target : String) (s : Survey) (count : Nat) : String :=
  "Wrote " ++ target ++ " (" ++ toString s.registry.size ++ " enum group(s), " ++
    toString s.catalog.size ++ " table(s) from " ++ toString count ++ " file(s))\n"

/-- The survey of a project, with the number of files in it and the address of its directory. -/
def look (scene : Scene) (plan : Plan) : Except Failure (Survey × Nat × Address) :=
  match scene.volume.directory? scene.directory plan.root with
  | none => .error (.notDirectory plan.root)
  | some address =>
    match survey plan.keepGoing (Survey.start plan.dialect) 0
        (sources scene.volume plan.root address) with
    | .ok (s, count) => .ok (s, count, address)
    | .error e => .error (.badSource e)

/-- What a request says is to be done, and what has been found. -/
def prepare (scene : Scene) (g : Generation) :
    Except Failure (Plan × Survey × Nat × Address) := do
  let plan ← (← Settings.gather scene g).plan
  return (plan, ← look scene plan)

/-- Writes or prints the document of a project.  Messages in JSON go where the document does not. -/
def generate (scene : Scene) (g : Generation) : Outcome :=
  match prepare scene g with
  | .error f => { failure := some f, volume := scene.volume }
  | .ok (plan, s, count, address) =>
    let format := g.options.messageFormat.getD .human
    let messages := format.write s.diagnostics
    let apart := format == .human || g.stdout
    let document := plan.format.document s
    let o : Outcome :=
      { errors := s.diagnostics.any fun d => d.severity == .error
        stdout := if apart then "" else messages
        stderr := if apart then messages else ""
        volume := scene.volume }
    if g.stdout then { o with stdout := o.stdout ++ document }
    else
      let name := documentName plan.format address
      match writeDocument scene plan.output name document with
      | .error f => { o with failure := some f }
      | .ok v =>
        let said := if g.quiet then "" else report (Path.join plan.output name) s count
        { o with stderr := o.stderr ++ said, volume := v }

end Codebook.Command
