import Findings.Command.Run

/-!
Contract: the files after a run.

Owns: the tree that a run leaves, also where it breaks off and so has no ending that could hold one.
Directories that were made for a log stay when the log cannot be written.
-/

set_option autoImplicit false

namespace Findings.Command

/-- The tree after a task. -/
def Task.filesAfter (task : Task) (surroundings : Surroundings) : Files.Tree :=
  match task.prepare surroundings with
  | .error _ => surroundings.files
  | .ok prepared =>
      match task.destination? surroundings.directory prepared.settings with
      | none => surroundings.files
      | some destination => (writeLog surroundings destination prepared.log).1

/-- The tree after a request. -/
def Request.filesAfter (request : Request) (surroundings : Surroundings) : Files.Tree :=
  match request with
  | .version | .help => surroundings.files
  | .run task => task.filesAfter surroundings

/-- The tree after what is asked for. -/
def Asked.filesAfter (asked : Asked) (surroundings : Surroundings) : Files.Tree :=
  match asked.paths.forM fun (rule, value) => checkValue surroundings rule value with
  | .error _ => surroundings.files
  | .ok _ =>
      match asked.request with
      | .error _ => surroundings.files
      | .ok request => request.filesAfter surroundings

/-- The tree after a command line. -/
def filesAfter (arguments : List Text) (surroundings : Surroundings) : Files.Tree :=
  (Asked.ofArguments arguments).filesAfter surroundings

end Findings.Command
