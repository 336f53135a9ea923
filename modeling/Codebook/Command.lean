import Codebook.Command.Inspect

/-!
# The command line

Running the program is a function of the files, the working directory and the arguments.  What it
comes to is what is printed, the exit code, and the files afterwards.
-/

set_option autoImplicit false

namespace Codebook.Command

/-- The name and the version of the program, or of what it does. -/
def versionText (verb : Option Verb) : String :=
  match verb with
  | none => "docgen 0.1.0\n"
  | some verb => "docgen-" ++ verb.name ++ " 0.1.0\n"

/-- How the program is used. -/
def helpText : String :=
  "Usage: docgen generate [ROOT] [OPTIONS]\n" ++
  "       docgen schema FILES... [-d DIALECT]\n" ++
  "       docgen statements FILE\n"

/-- Meets a request. -/
def perform (scene : Scene) : Request → Outcome
  | .generate g => generate scene g
  | .schema files dialect => listTables scene files dialect
  | .statements file => listStatements scene file

/-- Runs the program. -/
def run (scene : Scene) (arguments : List String) : Outcome :=
  match Request.ofArguments arguments with
  | .ok request => perform scene request
  | .error (.version verb) => { stdout := versionText verb, volume := scene.volume }
  | .error .help => { stdout := helpText, volume := scene.volume }
  | .error .misuse => { failure := some .misuse, volume := scene.volume }

end Codebook.Command
