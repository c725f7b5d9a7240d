import Findings.Command.Run

/-!
Contract: which places of the file system a run looks at.

Owns: the locations on the way along every path that a task reads or writes, so that a tree that
holds these is as good for the run as the whole file system.
-/

set_option autoImplicit false

namespace Findings.Command

/-- The locations that a walk along a path passes, and its end. -/
def locationsAlong (directory : Files.Location) (path : Path) : List Files.Location :=
  (List.range (path.segments.length + 1)).map fun count =>
    (Path.normalize ⟨.slash, Files.startOf directory path ++ path.segments.take count⟩).segments

/-- The paths that a task reads whatever its settings are. -/
def Task.sources (task : Task) (directory : Files.Location) : List Path :=
  Config.fileOf (task.project directory)
    :: if task.readsStdin then [] else [Path.ofText task.input]

/-- The path that a task writes under the settings that the surroundings hold. -/
def Task.target? (task : Task) (surroundings : Surroundings) : Option Path :=
  match task.loadSettings surroundings with
  | .ok settings => task.destination? surroundings.directory settings
  | .error _ => none

/-- The locations of the folders that options name. -/
def Asked.folders (asked : Asked) (directory : Files.Location) : List Files.Location :=
  asked.paths.flatMap fun (_, value) =>
    locationsAlong directory (resolve directory value)

/-- The locations that a run looks at, as far as the surroundings tell. -/
def Task.footprint (task : Task) (surroundings : Surroundings) : List Files.Location :=
  ((⟨.slash, surroundings.directory⟩ : Path) :: task.sources surroundings.directory
      ++ (task.target? surroundings).toList).flatMap
    (locationsAlong surroundings.directory)

end Findings.Command
