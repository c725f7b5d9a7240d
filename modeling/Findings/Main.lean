import Findings.Command.Aftermath
import Findings.Command.Footprint

/-!
Contract: the program on a real file system.

Owns: the input and output around `Findings.Command.run`.  The part of the file system that a run
looks at is read into a tree before the run, and what the run changed in the tree is written after
it.
-/

set_option autoImplicit false

namespace Findings.Program

/-- The characters of a text.  Text that holds a surrogate is never written. -/
def charactersOf (text : Text) : String := (Text.toString? text).getD ""

/-- The path of a location. -/
def pathAt (location : Files.Location) : String :=
  charactersOf (Path.toText ⟨.slash, location⟩)

/-- What lies at a location of the file system. -/
def probe (location : Files.Location) : IO (Option Files.Node) := do
  let path := System.mkFilePath [pathAt location]
  if ← path.isDir then return some .directory
  else if ← path.pathExists then
    return some (.file (← IO.FS.readBinFile path).toList)
  else return none

/-- The tree of what lies at some locations. -/
def probeAll (locations : List Files.Location) : IO Files.Tree :=
  locations.foldlM (fun tree location => do
    match ← probe location with
    | some node => return tree.put location node
    | none => return tree) []

/-- Make the directories and write the files that a tree has and the tree before had not. -/
def store (before after : Files.Tree) : IO Unit := do
  for (location, node) in after do
    if node = .directory ∧ before.node? location = none then
      IO.FS.createDirAll (pathAt location)
  for (location, content) in after.changesSince before do
    IO.FS.writeBinFile (pathAt location) ⟨content.toArray⟩

/-- Everything on standard input, which is text in UTF-8. -/
def readStdin : IO Text := do
  let mut bytes := ByteArray.empty
  let stdin ← IO.getStdin
  repeat
    let more ← stdin.read 65536
    if more.isEmpty then break
    bytes := bytes ++ more
  return Text.decodeUtf8Lenient bytes.toList

/-- What a run of a request can read. -/
def surroundingsOf (asked : Command.Asked) : IO Command.Surroundings := do
  let directory := (Path.ofText (Text.ofString (← IO.currentDir).toString)).segments
  match asked.request with
  | .ok (.run task) =>
      let input ← if task.readsStdin then readStdin else pure []
      let first ← probeAll (task.footprint { files := [], directory, input })
      let files ← probeAll (task.footprint { files := first, directory, input })
      return { files, directory, input }
  | _ =>
      let files ← probeAll (asked.folders directory)
      return { files, directory, input := [] }

end Findings.Program

open Findings in
/-- Run the program and give its exit code. -/
def main (arguments : List String) : IO UInt32 := do
  let arguments := arguments.map Text.ofString
  let surroundings ← Program.surroundingsOf (Command.Asked.ofArguments arguments)
  match Command.run arguments surroundings with
  | .usage error =>
      IO.eprintln (Program.charactersOf error.message)
      return 2
  | .crash crash =>
      Program.store surroundings.files (Command.filesAfter arguments surroundings)
      IO.eprintln (Program.charactersOf crash.message)
      return 1
  | .ended ending =>
      Program.store surroundings.files ending.files
      IO.print (Program.charactersOf ending.stdout)
      IO.eprint (Program.charactersOf ending.stderr)
      return UInt32.ofNat ending.exitCode
