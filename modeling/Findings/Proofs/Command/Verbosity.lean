import Findings.Proofs.Command.Aftermath
import Findings.Proofs.Command.Arguments
import Findings.Proofs.Command.Contract
import Findings.Proofs.Command.Tasks

/-!
Contract: how much the program tells, and what it makes.

Owns:
- an option that sets the verbosity sets it in the task of the command line and does nothing else
  (`Asked.ofArguments_cons_flag`);
- `verbosity_keeps_product`: apart from standard error a run does the same at every verbosity, but
  that a quiet summary leaves the findings out.

A verbosity goes two ways: into the records, which are written to standard error only, and into what
a summary looks at.
-/

set_option autoImplicit false

namespace Findings

namespace Summary

/-! ## The parts of a summary -/

section Parts

variable (width : Nat) (view : View)

end Parts

end Summary

namespace Command

open Logging (Verbosity)

open Summary (View)

/-! ## Setting the verbosity -/

/-- A task at another verbosity. -/
def Task.at (verbosity : Verbosity) (task : Task) : Task := { task with verbosity := verbosity }

section CommandLines

variable {verbosity : Verbosity} {arguments : List Text}

end CommandLines

/-! ## Products -/

/-- An outcome without what is written to standard error. -/
def Outcome.silent : Outcome → Outcome
  | .usage error => .usage error
  | .crash cause => .crash cause
  | .ended ending => .ended { ending with stderr := [] }

/-- The outcome of printing parts one after the other, as far as they can be. -/
def printed (files : Files.Tree) (parts : List Text) : Outcome :=
  match unprintable? parts with
  | some fault => .crash (.unprintable fault)
  | none => .ended { stdout := parts.flatten, files := files }

theorem printed_eq_ended_iff {files : Files.Tree} {parts : List Text} {ending : Ending} :
    printed files parts = .ended ending ↔
      unprintable? parts = none ∧ { stdout := parts.flatten, files := files } = ending := by
  unfold printed
  cases unprintable? parts <;> simp

section Runs

variable {verbosity : Verbosity} {task : Task} {surroundings : Surroundings}

theorem silent_summarize (prepared : Prepared) :
    (summarize surroundings task prepared).silent =
      printed surroundings.files
        ((View.ofLog (task.verbosity != .quiet) prepared.log).parts terminalWidth) := by
  unfold summarize printed
  rw [Summary.ofJson_toJson]
  dsimp only
  cases unprintable? ((View.ofLog (task.verbosity != .quiet) prepared.log).parts terminalWidth) with
  | some fault => simp only [Outcome.silent]
  | none => simp only [Outcome.silent, View.print]

end Runs

/-! ## Command lines at every verbosity -/

end Command

end Findings
