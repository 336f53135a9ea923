import Codebook.Command.Arguments
import Codebook.Command.Assignments
import Codebook.Files.Volume
import Codebook.Go.Scan
import Codebook.Sql.Dialect
import Codebook.Text.Lowercase
import Codebook.Text.Utf8

/-!
# Settings

What the command line leaves open is taken from a file of settings: the one that is named, else the
`docgen.toml` of the working directory or of the nearest directory above it.

What is here: `Settings`, `Settings.gather`, which puts both together, and `Plan`, what they come
to.
-/

set_option autoImplicit false

namespace Codebook.Command

open Text

/-- Why a request cannot be met. -/
inductive Failure where
  /-- The command line is not understood. -/
  | misuse
  /-- A file cannot be read. -/
  | unreadable (path : String)
  /-- A file of settings is not one. -/
  | badSettings (path : String)
  /-- The document has no such form. -/
  | unknownFormat (name : String)
  /-- There is no such dialect. -/
  | unknownDialect (name : String)
  /-- What should be the directory of the project is none. -/
  | notDirectory (path : String)
  /-- A Go file cannot be scanned. -/
  | badSource (e : Go.ScanError)
  /-- The document cannot be written. -/
  | unwritable (path : String)
deriving DecidableEq, Repr

/-- What is said about a failure. -/
def Failure.message : Failure → String
  | misuse => "the arguments are not understood"
  | unreadable path => path ++ " cannot be read"
  | badSettings path => path ++ " is not a file of settings"
  | unknownFormat name => "Unknown document format: " ++ name
  | unknownDialect name => Sql.Dialect.unknownMessage name
  | notDirectory path => path ++ " is not a directory"
  | badSource e => e.message
  | unwritable path => path ++ " cannot be written"

/-- The files, and the working directory. -/
structure Scene where
  /-- The files. -/
  volume : Volume
  /-- The address of the working directory. -/
  directory : Address
deriving DecidableEq, Repr

namespace Scene

/-- The bytes of the file that a path leads to. -/
def read (scene : Scene) (path : String) : Except Failure (List UInt8) :=
  match scene.volume.read? scene.directory path with
  | some bytes => .ok bytes
  | none => .error (.unreadable path)

end Scene

/-! ## Settings -/

/-- What may be set. -/
structure Settings where
  /-- The directory of the project. -/
  root : Option String := none
  /-- The directory of the document. -/
  output : Option String := none
  /-- The form of the document. -/
  format : Option String := none
  /-- The dialect of the SQL files. -/
  dialect : Option String := none
  /-- Whether files that cannot be scanned are passed over. -/
  keepGoing : Option Bool := none
deriving DecidableEq, Repr

namespace Settings

/-- Sets what has not been set. -/
def assign? (s : Settings) : String × Scalar → Option Settings
  | ("root", .text t) => if s.root.isNone then some { s with root := some t } else none
  | ("output", .text t) => if s.output.isNone then some { s with output := some t } else none
  | ("format", .text t) => if s.format.isNone then some { s with format := some t } else none
  | ("dialect", .text t) => if s.dialect.isNone then some { s with dialect := some t } else none
  | ("keep_going", .truth b) =>
    if s.keepGoing.isNone then some { s with keepGoing := some b } else none
  | _ => none

/-- Sets everything in a list, each thing once. -/
def assignAll? (s : Settings) : List (String × Scalar) → Option Settings
  | [] => some s
  | entry :: entries => (s.assign? entry).bind fun s => s.assignAll? entries

/-- The settings in a file. -/
def ofBytes? (bytes : List UInt8) : Option Settings := do
  assignAll? {} (← assignments? (← Utf8.decode? bytes))

/-- The name of the file of settings that is looked for. -/
def fileName : String := "docgen.toml"

/-- The nearest entry with the name of the file of settings, from a directory upwards.  The names of
the address come last one first. -/
def nearest? (v : Volume) : List String → Option Entry
  | [] => v.entry? [fileName]
  | name :: above =>
    match v.entry? ((name :: above).reverse ++ [fileName]) with
    | some e => some e
    | none => nearest? v above

/-- The settings in the file that is named, or in the nearest one. -/
def find (scene : Scene) (config : Option String) : Except Failure Settings :=
  match config with
  | some path => do
    match ofBytes? (← scene.read path) with
    | some s => return s
    | none => throw (.badSettings path)
  | none =>
    match nearest? scene.volume scene.directory.reverse with
    | none => .ok {}
    | some .directory => .error (.unreadable fileName)
    | some (.file bytes) =>
      match ofBytes? bytes with
      | some s => .ok s
      | none => .error (.badSettings fileName)

/-- The name of a form of the document in settings. -/
def formatName : DocumentFormat → String
  | .markdown => "markdown"
  | .json => "json"

/-- The settings where what a request says counts first. -/
def under (s : Settings) (g : Generation) : Settings :=
  { root := g.root.or s.root
    output := g.options.output.or s.output
    format := (g.options.format.map formatName).or s.format
    dialect := g.options.dialect.or s.dialect
    keepGoing := some (s.keepGoing.getD false || g.keepGoing) }

/-- The settings for a request. -/
def gather (scene : Scene) (g : Generation) : Except Failure Settings :=
  (find scene g.options.config).map fun s => s.under g

end Settings

/-! ## Plans -/

/-- The form of the document that a word names in settings, in any letter case. -/
def DocumentFormat.ofSetting? (word : String) : Option DocumentFormat :=
  match lowercaseString word with
  | "markdown" | "md" => some .markdown
  | "json" => some .json
  | _ => none

/-- What settings come to. -/
structure Plan where
  /-- The directory of the project. -/
  root : String
  /-- The directory of the document. -/
  output : String
  /-- The form of the document. -/
  format : DocumentFormat
  /-- The dialect of the SQL files. -/
  dialect : Sql.Dialect
  /-- Whether files that cannot be scanned are passed over. -/
  keepGoing : Bool
deriving DecidableEq, Repr

/-- What settings come to. -/
def Settings.plan (s : Settings) : Except Failure Plan := do
  let format ← match s.format with
    | none => .ok DocumentFormat.markdown
    | some word =>
      match DocumentFormat.ofSetting? word with
      | some f => .ok f
      | none => .error (.unknownFormat word)
  let dialect ← match s.dialect with
    | none => .ok default
    | some name =>
      match Sql.Dialect.ofName? name with
      | some d => .ok d
      | none => .error (.unknownDialect name)
  return {
    root := s.root.getD "."
    output := s.output.getD "docs"
    format, dialect
    keepGoing := s.keepGoing.getD false }

end Codebook.Command
