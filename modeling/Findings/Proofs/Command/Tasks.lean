import Findings.Command.Aftermath
import Findings.Proofs.Command.Arguments

/-!
Contract: command lines that differ in their task.

Owns:
- what is in front of a command decides whether what is behind it is read at all
  (`ofArguments_command`);
- a change of the task that a command line asks for, and what it means for the run of the command line
  (`Asked.run_mapTask_cases`).

The values of options are looked at before the task, so a task can be changed and its run never come
about.
-/

set_option autoImplicit false

namespace Findings.Command

def Request.mapTask (change : Task → Task) : Request → Request
  | .version => .version
  | .help => .help
  | .run task => .run (change task)

/-- What is asked for, with another task. -/
def Asked.mapTask (change : Task → Task) (asked : Asked) : Asked :=
  { asked with request := asked.request.map (Request.mapTask change) }

/-- No task is run, and no option names a path. -/
structure Asked.IsIdle (asked : Asked) : Prop where
  noPaths : asked.paths = []
  noTask : ∀ task, asked.request ≠ .ok (.run task)

theorem Asked.IsIdle.refused (error : UsageError) : (Asked.refused error).IsIdle :=
  ⟨rfl, fun _ asks => by cases asks⟩

/-- A request that options in front of the command make has no task. -/
theorem Asked.IsIdle.immediate {reading : Reading} {request : Request}
    (isImmediate : immediate? reading = some request) : (Asked.immediate request).IsIdle := by
  refine ⟨rfl, fun task asks => ?_⟩
  obtain ⟨name, _, isRequest⟩ := Option.map_eq_some_iff.1 isImmediate
  cases asks
  split at isRequest <;> cases isRequest

theorem Asked.mapTask_of_isIdle {asked : Asked} (idle : asked.IsIdle) (change : Task → Task) :
    asked.mapTask change = asked := by
  obtain ⟨paths, request⟩ := asked
  rcases request with error | _ | _ | task
  · rfl
  · rfl
  · rfl
  · exact absurd rfl (idle.noTask task)

/-- **Behind a command.**  The options in front of a command leave nothing to run, whatever is behind
it, or all that is behind it is read by the rules of the command. -/
theorem ofArguments_command {program : List Text} {command : Text} {rules : List OptionRule}
    {job : Reading → Except UsageError Job}
    (isJob : ∀ verbosity, command? verbosity command = some (askJob verbosity rules job))
    (commandFirst : Reading.IsFirstOperand programRules false program command) :
    (∃ asked : Asked, asked.IsIdle ∧
      ∀ rest, Asked.ofArguments (program ++ command :: rest) = asked) ∨
    ∃ verbosity, ∀ rest,
      Asked.ofArguments (program ++ command :: rest) = askJob verbosity rules job rest := by
  unfold Asked.ofArguments
  simp only [Reading.ofArguments_of_last commandFirst]
  cases program.foldlM (Reading.step programRules false) {} with
  | error error => exact .inl ⟨_, .refused error, fun _ => rfl⟩
  | ok reading =>
      have sameImmediate : ∀ operands : List Text,
          immediate? { reading with operands := operands, mode := .operand } =
            immediate? reading := fun _ => rfl
      simp only [ok_map, sameImmediate]
      cases isImmediate : immediate? reading with
      | some request => exact .inl ⟨_, .immediate isImmediate, fun _ => rfl⟩
      | none =>
          have sameRefusal : ∀ operands : List Text,
              refuseBoth { reading with operands := operands, mode := .operand } "verbose" "quiet" =
                refuseBoth reading "verbose" "quiet" := fun _ => rfl
          have sameUses : ∀ (operands : List Text) (name : Text),
              Reading.uses { reading with operands := operands, mode := .operand } name =
                reading.uses name := fun _ _ => rfl
          simp only [askCommand, isJob, sameRefusal, sameUses]
          cases refuseBoth reading "verbose" "quiet" with
          | error error => exact .inl ⟨_, .refused error, fun _ => rfl⟩
          | ok => exact .inr ⟨_, fun _ => rfl⟩

theorem Asked.mapTask_mapTask (first second : Task → Task) (asked : Asked) :
    (asked.mapTask first).mapTask second = asked.mapTask fun task => second (first task) := by
  unfold Asked.mapTask
  dsimp only
  rcases asked.request with error | _ | _ | task <;> rfl

theorem Asked.exists_of_mapTask {change : Task → Task} {asked : Asked} {task : Task}
    (asks : (asked.mapTask change).request = .ok (.run task)) : ∃ before, change before = task := by
  obtain ⟨request, _, isRun⟩ := map_eq_ok_iff.1 asks
  cases request with
  | version => cases isRun
  | help => cases isRun
  | run before => exact ⟨before, Request.run.inj isRun⟩

/-- **A run with another task.**  The changed task is run where the task would be, on a standard input
that may be another one.  Otherwise the runs are the same, and end before any task is run. -/
theorem Asked.run_mapTask_cases (asked : Asked) (change : Task → Task) (surroundings : Surroundings)
    (stream : Text) :
    (∃ task, asked.request = .ok (.run task) ∧
      (asked.run surroundings = task.run surroundings ∧
        (asked.mapTask change).run { surroundings with input := stream } =
          (change task).run { surroundings with input := stream }) ∧
      (asked.filesAfter surroundings = task.filesAfter surroundings ∧
        (asked.mapTask change).filesAfter { surroundings with input := stream } =
          (change task).filesAfter { surroundings with input := stream })) ∨
    (asked.mapTask change).run { surroundings with input := stream } = asked.run surroundings ∧
      (asked.mapTask change).filesAfter { surroundings with input := stream } =
        asked.filesAfter surroundings ∧
      ∀ task, asked.request = .ok (.run task) →
        ∃ halt : Halt, asked.run surroundings = halt.outcome surroundings.files := by
  have sameChecks : ((asked.mapTask change).paths.forM fun option =>
        checkValue { surroundings with input := stream } option.1 option.2) =
      asked.paths.forM fun option => checkValue surroundings option.1 option.2 := rfl
  have isRequest : (asked.mapTask change).request = asked.request.map (Request.mapTask change) := rfl
  unfold Asked.run Asked.filesAfter
  rw [sameChecks, isRequest]
  cases asked.paths.forM fun option => checkValue surroundings option.1 option.2 with
  | error halt => exact .inr ⟨rfl, rfl, fun _ _ => ⟨halt, rfl⟩⟩
  | ok =>
      rcases asked.request with error | _ | _ | task
      · exact .inr ⟨rfl, rfl, fun _ asks => by cases asks⟩
      · exact .inr ⟨rfl, rfl, fun _ asks => by cases asks⟩
      · exact .inr ⟨rfl, rfl, fun _ asks => by cases asks⟩
      · exact .inl ⟨task, rfl, ⟨rfl, rfl⟩, rfl, rfl⟩

end Findings.Command
