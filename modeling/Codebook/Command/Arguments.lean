import Codebook.Diagnostic.Report

/-!
# Arguments of the command line

A command line names what is to be done, gives options, and gives paths.  Options may stand before
what is to be done, if they are known there, and anywhere after it.  A long option is written
`--name`, a short one `-n`; short ones can be put together, and a value is the next argument or
follows the option, with an equals sign or, after a short option, without.  After `--` there are
only paths.

What is here: `Request`, and `Request.ofArguments` that reads it.
-/

set_option autoImplicit false

namespace Codebook.Command

/-! ## What can be asked for -/

/-- What can be done. -/
inductive Verb where
  /-- Write the document of a project. -/
  | generate
  /-- List the tables of SQL files. -/
  | schema
  /-- List the statements of an SQL file. -/
  | statements
deriving DecidableEq, Repr

namespace Verb

/-- The word for what is done. -/
def name : Verb → String
  | generate => "generate"
  | schema => "schema"
  | statements => "statements"

/-- What a word says is to be done. -/
def ofName? : String → Option Verb
  | "generate" => some generate
  | "schema" => some schema
  | "statements" => some statements
  | _ => none

end Verb

/-- The forms of the document. -/
inductive DocumentFormat where
  | markdown
  | json
deriving DecidableEq, Repr

/-- The form that a word names on the command line. -/
def DocumentFormat.ofArgument? : String → Option DocumentFormat
  | "markdown" => some .markdown
  | "json" => some .json
  | _ => none

/-- The form that a word names for messages. -/
def messageFormat? : String → Option MessageFormat
  | "human" => some .human
  | "json" => some .json
  | _ => none

/-- The options of `generate` that have a value. -/
structure Options where
  /-- The directory of the project. -/
  localPath : Option String := none
  /-- The directory of the document. -/
  output : Option String := none
  /-- The form of the document. -/
  format : Option DocumentFormat := none
  /-- The dialect of the SQL files. -/
  dialect : Option String := none
  /-- The file with the settings. -/
  config : Option String := none
  /-- The form of the messages. -/
  messageFormat : Option MessageFormat := none
deriving DecidableEq, Repr

/-- A request to write the document of a project. -/
structure Generation where
  /-- The directory of the project. -/
  root : Option String := none
  /-- The other options that have a value. -/
  options : Options := {}
  /-- Whether files that cannot be scanned are passed over. -/
  keepGoing : Bool := false
  /-- Whether the document is printed and not written to a file. -/
  stdout : Bool := false
  /-- Whether success is not reported. -/
  quiet : Bool := false
deriving DecidableEq, Repr

/-- What is asked for. -/
inductive Request where
  /-- Write the document of a project. -/
  | generate (g : Generation)
  /-- List the tables of some files in a dialect. -/
  | schema (files : List String) (dialect : Option String)
  /-- List the statements of a file. -/
  | statements (file : String)
deriving DecidableEq, Repr

/-- Why a command line asks for nothing. -/
inductive Stop where
  /-- It asks for the version of the program, or of what it does. -/
  | version (verb : Option Verb)
  /-- It asks for help. -/
  | help
  /-- It is not understood. -/
  | misuse
deriving DecidableEq, Repr

/-! ## Options -/

/-- The options without a value. -/
inductive Switch where
  | verbose
  | quiet
  | version
  | help
  | keepGoing
  | stdout
deriving DecidableEq, Repr

/-- The options with a value. -/
inductive Setting where
  | localPath
  | output
  | format
  | dialect
  | config
  | messageFormat
deriving DecidableEq, Repr

/-- An option of either sort. -/
inductive Flag where
  | switch (s : Switch)
  | setting (s : Setting)
deriving DecidableEq, Repr

/-- The option with a long name, as far as it is known where it stands. -/
def longFlag? (verb : Option Verb) (name : String) : Option Flag :=
  match name, verb with
  | "verbose", _ => some (.switch .verbose)
  | "quiet", _ => some (.switch .quiet)
  | "version", _ => some (.switch .version)
  | "help", _ => some (.switch .help)
  | "keep-going", some .generate => some (.switch .keepGoing)
  | "stdout", some .generate => some (.switch .stdout)
  | "localpath", some .generate => some (.setting .localPath)
  | "output", some .generate => some (.setting .output)
  | "format", some .generate => some (.setting .format)
  | "config", some .generate => some (.setting .config)
  | "message-format", some .generate => some (.setting .messageFormat)
  | "dialect", some .generate => some (.setting .dialect)
  | "dialect", some .schema => some (.setting .dialect)
  | _, _ => none

/-- The option with a short name, as far as it is known where it stands. -/
def shortFlag? (verb : Option Verb) (name : Char) : Option Flag :=
  match name, verb with
  | 'v', _ => some (.switch .verbose)
  | 'q', _ => some (.switch .quiet)
  | 'V', _ => some (.switch .version)
  | 'h', _ => some (.switch .help)
  | 'o', some .generate => some (.setting .output)
  | 'f', some .generate => some (.setting .format)
  | 'c', some .generate => some (.setting .config)
  | 'd', some .generate => some (.setting .dialect)
  | 'd', some .schema => some (.setting .dialect)
  | _, _ => none

/-! ## Reading -/

/-- What has been read of a command line. -/
structure Draft where
  /-- What is to be done. -/
  verb : Option Verb := none
  /-- Whether success is not to be reported, as far as the arguments before that say. -/
  quiet : Bool := false
  /-- The options without a value since then. -/
  switches : List Switch := []
  /-- The options with a value. -/
  options : Options := {}
  /-- The paths. -/
  paths : List String := []
  /-- The option whose value comes next. -/
  pending : Option Setting := none
  /-- Whether there are only paths from now on. -/
  onlyPaths : Bool := false
deriving DecidableEq, Repr

/-- A value for an option that has none yet. -/
def once {α : Type} (old new : Option α) : Except Stop (Option α) :=
  match old, new with
  | none, some x => .ok (some x)
  | _, _ => .error .misuse

/-- A path, which is never empty. -/
def path? (s : String) : Option String := if s.isEmpty then none else some s

/-- Whether an argument is no path or value, but options or `--`. -/
def isOption (argument : String) : Bool :=
  match argument.toList with
  | '-' :: _ :: _ => true
  | _ => false

namespace Draft

/-- Takes an option without a value.  Only `verbose` can be given twice. -/
def takeSwitch (d : Draft) (s : Switch) : Except Stop Draft :=
  match s with
  | .version => .error (.version d.verb)
  | .help => .error .help
  | .verbose => .ok d
  | s =>
    if d.switches.contains s then .error .misuse
    else .ok { d with switches := s :: d.switches }

/-- Takes an option with its value. -/
def takeSetting (d : Draft) (s : Setting) (value : String) : Except Stop Draft := do
  let o := d.options
  let o ← match s with
    | .localPath => do pure { o with localPath := ← once o.localPath (path? value) }
    | .output => do pure { o with output := ← once o.output (path? value) }
    | .config => do pure { o with config := ← once o.config (path? value) }
    | .dialect => do pure { o with dialect := ← once o.dialect (some value) }
    | .format => do
      pure { o with format := ← once o.format (DocumentFormat.ofArgument? value) }
    | .messageFormat => do
      pure { o with messageFormat := ← once o.messageFormat (messageFormat? value) }
  return { d with options := o, pending := none }

/-- Takes a word that is no option: first what is to be done, then paths. -/
def takeWord (d : Draft) (word : String) : Except Stop Draft :=
  match d.verb with
  | none =>
    if d.onlyPaths then .error .misuse
    else if word == "help" then .error .help
    else
      match Verb.ofName? word with
      | some verb =>
        .ok { d with verb := some verb, quiet := d.switches.contains .quiet, switches := [] }
      | none => .error .misuse
  | some verb =>
    if word.isEmpty || (verb != .schema && !d.paths.isEmpty) then .error .misuse
    else .ok { d with paths := d.paths ++ [word] }

/-- Takes short options that are put together. -/
def takeShort (d : Draft) : List Char → Except Stop Draft
  | [] => .ok d
  | c :: cs =>
    match shortFlag? d.verb c with
    | none => .error .misuse
    | some (.switch s) => do (← d.takeSwitch s).takeShort cs
    | some (.setting s) =>
      match cs with
      | [] => .ok { d with pending := some s }
      | '=' :: value => d.takeSetting s (String.ofList value)
      | value => d.takeSetting s (String.ofList value)

/-- Takes a long option, with its value if there is one. -/
def takeLong (d : Draft) (name : String) (value : Option String) : Except Stop Draft :=
  match longFlag? d.verb name, value with
  | some (.switch s), none => d.takeSwitch s
  | some (.setting s), none => .ok { d with pending := some s }
  | some (.setting s), some value => d.takeSetting s value
  | _, _ => .error .misuse

/-- Takes the next argument. -/
def take (d : Draft) (argument : String) : Except Stop Draft :=
  match d.pending with
  | some s => if isOption argument then .error .misuse else d.takeSetting s argument
  | none =>
    if d.onlyPaths then d.takeWord argument
    else
      match argument.toList with
      | ['-', '-'] => .ok { d with onlyPaths := true }
      | '-' :: '-' :: rest =>
        let value := match rest.dropWhile (· != '=') with
          | _ :: value => some (String.ofList value)
          | [] => none
        d.takeLong (String.ofList (rest.takeWhile (· != '='))) value
      | '-' :: c :: cs => d.takeShort (c :: cs)
      | _ => d.takeWord argument

/-- Takes some arguments in order. -/
def takeAll (d : Draft) : List String → Except Stop Draft
  | [] => .ok d
  | a :: arguments => do (← d.take a).takeAll arguments

/-- The request that a whole command line makes. -/
def request (d : Draft) : Except Stop Request :=
  match d.pending, d.verb, d.paths with
  | none, some .generate, paths =>
    if d.options.localPath.isSome && !paths.isEmpty then .error .misuse
    else
      .ok (.generate {
        root := paths.head?.or d.options.localPath
        options := d.options
        keepGoing := d.switches.contains .keepGoing
        stdout := d.switches.contains .stdout
        quiet := d.quiet || d.switches.contains .quiet })
  | none, some .schema, file :: files => .ok (.schema (file :: files) d.options.dialect)
  | none, some .statements, [file] => .ok (.statements file)
  | _, _, _ => .error .misuse

end Draft

/-- The request that some arguments make. -/
def Request.ofArguments (arguments : List String) : Except Stop Request := do
  (← Draft.takeAll {} arguments).request

end Codebook.Command
