import Findings.Summary.Print

/-!
Contract: the log messages of the program.

Owns: the levels, which of them a verbosity lets through, and the line that a record is written as.
-/

set_option autoImplicit false

namespace Findings.Logging

inductive Level where
  | debug
  | info
  | warning
  | error
  | critical
deriving DecidableEq, Repr

def Level.name : Level → Text
  | .debug => "DEBUG"
  | .info => "INFO"
  | .warning => "WARNING"
  | .error => "ERROR"
  | .critical => "CRITICAL"

/-- The weight of a level; a heavier one is more urgent. -/
def Level.weight : Level → Nat
  | .debug => 10
  | .info => 20
  | .warning => 30
  | .error => 40
  | .critical => 50

/-- How much the program tells about its work. -/
inductive Verbosity where
  | quiet
  | normal
  | verbose
deriving DecidableEq, Repr

/-- The verbosity of two wishes; the wish for more wins. -/
def Verbosity.ofFlags (verbose quiet : Bool) : Verbosity :=
  if verbose then .verbose else if quiet then .quiet else .normal

/-- The least level that is written. -/
def Verbosity.threshold : Verbosity → Level
  | .quiet => .warning
  | .normal => .info
  | .verbose => .debug

structure Record where
  source : Text
  level : Level
  text : Text
deriving DecidableEq

/-- Whether a record is written. -/
def Verbosity.admits (verbosity : Verbosity) (record : Record) : Bool :=
  decide (verbosity.threshold.weight ≤ record.level.weight)

/-- The name of a record's source; one without a name is the root of all. -/
def Record.sourceName (record : Record) : Text :=
  if record.source.isEmpty then Text.ofString "root" else record.source

/-- The line of a record.  A verbose program tells level and source. -/
def Record.line (verbosity : Verbosity) (record : Record) : Text :=
  match verbosity with
  | .verbose =>
      programName ++ Text.ofString " [" ++ record.level.name ++ Text.ofString "] "
        ++ record.sourceName ++ Text.ofString ": " ++ record.text ++ Text.ofString "\n"
  | _ => programName ++ Text.ofString ": " ++ record.text ++ Text.ofString "\n"

/-- What is written of a list of records. -/
def written (verbosity : Verbosity) (records : List Record) : Text :=
  (records.filter verbosity.admits).flatMap (Record.line verbosity)

end Findings.Logging
