import Codebook.Command

/-!
# The program

The program looks at the files that a request is about, runs the command on what it has seen, and
carries out what that comes to.
-/

set_option autoImplicit false

namespace Codebook.Program

open Command

/-- The path to a place. -/
def pathTo (address : Address) : String := "/" ++ Path.ofNames address

/-- The directory entry of a place. -/
def entryOf (address : Address) : IO.FS.DirEntry :=
  { root := pathTo address.dropLast, fileName := address.getLast?.getD "" }

/-- Adds what stands at a place, if anything does. -/
def lookAt (v : Volume) (address : Address) : IO Volume := do
  let path := (entryOf address).path
  if ← path.isDir then return v.install address .directory
  else if ← path.pathExists then
    return v.install address (.file (← IO.FS.readBinFile path).toList)
  else return v

/-- Adds what stands at each place that a path goes through. -/
def lookAlong (v : Volume) (base : Address) : List String → IO Volume
  | [] => lookAt v base
  | part :: parts => do
    let v ← lookAt v base
    if part == ".." then lookAlong v base.dropLast parts
    else lookAlong v (base ++ [part]) parts

/-- Adds what stands at each place that a path goes through from a directory. -/
def lookAlongPath (v : Volume) (directory : Address) (path : String) : IO Volume :=
  lookAlong v (if Path.isAbsolute path then [] else directory) (Path.steps path)

/-- Adds everything in a directory. -/
partial def lookBelow (v : Volume) (address : Address) : IO Volume := do
  let mut v := v
  for entry in ← (entryOf address).path.readDir do
    let next := address ++ [entry.fileName]
    let isDirectory ← entry.path.isDir
    if isDirectory then v ← lookBelow (v.install next .directory) next
    else if (SourceKind.ofPath? entry.fileName).isSome then v ← lookAt v next
  return v

/-- What a request is about. -/
def sceneOf (directory : Address) (request : Request) : IO Scene := do
  let start ← lookAt {} directory
  match request with
  | .statements file =>
    return { volume := ← lookAlongPath start directory file, directory }
  | .schema files _ =>
    let mut v := start
    for file in files do v ← lookAlongPath v directory file
    return { volume := v, directory }
  | .generate g =>
    let mut v := start
    for n in [0:directory.length + 1] do
      v ← lookAt v (directory.take n ++ [Settings.fileName])
    if let some config := g.options.config then v ← lookAlongPath v directory config
    match (Settings.gather { volume := v, directory } g).bind Settings.plan with
    | .error _ => return { volume := v, directory }
    | .ok plan =>
      v ← lookAlongPath v directory plan.root
      v ← lookAlongPath v directory plan.output
      let found := v.directory? directory plan.root
      if let some address := found then
        v ← lookBelow v address
        let name := documentName plan.format address
        v ← lookAlongPath v directory (Path.join plan.output name)
      return { volume := v, directory }

/-- Writes what has been added to the files. -/
def carryOut (old new : Volume) : IO Unit := do
  for (address, e) in new.newEntries old do
    match e with
    | .directory => IO.FS.createDirAll (pathTo address)
    | .file content => IO.FS.writeBinFile (pathTo address) ⟨content.toArray⟩

/-- Prints what a command comes to, and gives its exit code. -/
def finish (old : Volume) (o : Outcome) : IO UInt32 := do
  IO.print o.stdout
  IO.eprint o.stderr
  if let some f := o.failure then IO.eprintln ("Error: " ++ f.message)
  carryOut old o.volume
  return UInt32.ofNat o.exitCode

end Codebook.Program

open Codebook in
/-- Runs the program in the working directory. -/
def main (arguments : List String) : IO UInt32 := do
  let directory := Path.steps (← IO.currentDir).toString
  let scene ←
    match Command.Request.ofArguments arguments with
    | .ok request => Program.sceneOf directory request
    | .error _ => pure { volume := {}, directory := directory }
  Program.finish scene.volume (Command.run scene arguments)
