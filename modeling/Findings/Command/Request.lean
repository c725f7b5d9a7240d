import Findings.Command.Arguments
import Findings.Logging

/-!
Contract: what the program can be asked for.

Owns: the commands with their options, and the reading of a command line as a request, together with
the paths that have to be looked at before anything else is found fault with.
-/

set_option autoImplicit false

namespace Findings.Command

/-- How a report is converted, where the command line says so. -/
structure Conversion where
  output : Option Text := none
  ignoreSuppressed : Option Bool := none
  toolName : Option Text := none
  toolVersion : Option Text := none
  noFingerprints : Bool := false
  failOnError : Bool := false
deriving DecidableEq

inductive Job where
  | convert (conversion : Conversion)
  | summary
deriving DecidableEq

/-- A job on one report. -/
structure Task where
  job : Job
  /-- The path of the report, or a hyphen for standard input. -/
  input : Text
  projectRoot : Option Text := none
  baseFolder : Option Text := none
  verbosity : Logging.Verbosity := .normal
deriving DecidableEq

inductive Request where
  | version
  | help
  | run (task : Task)
deriving DecidableEq

/-! ## Options -/

def helpRule : OptionRule where
  name := "help"

/-- The options in front of the command. -/
def programRules : List OptionRule :=
  [{ name := "version" }, { name := "verbose", letter := some 'v' },
    { name := "quiet", letter := some 'q' }, helpRule]

/-- The options of every command that reads a report. -/
def folderRules : List OptionRule :=
  [{ name := "project-root", value := .directory },
    { name := "base-folder", value := .absolutePath }, helpRule]

/-- The options of a conversion. -/
def convertRules : List OptionRule :=
  [{ name := "output", letter := some 'o', value := .path },
    { name := "ignore-suppressed" }, { name := "include-suppressed" },
    { name := "tool-name", value := .text }, { name := "tool-version", value := .text },
    { name := "no-fingerprints" }, { name := "fail-on-error" }] ++ folderRules

/-! ## Requests -/

/-- Refuse two options that exclude each other. -/
def refuseBoth (reading : Reading) (first second : Text) : Except UsageError Unit :=
  if reading.uses first && reading.uses second then .error (.conflictingOptions first second)
  else .ok ()

/-- The only operand of a command. -/
def readInput (reading : Reading) : Except UsageError Text :=
  match reading.operands with
  | [] => .error .missingInput
  | [input] => .ok input
  | _ :: extra :: _ => .error (.extraArgument extra)

/-- The conversion that the options of a command line choose. -/
def readConversion (reading : Reading) : Except UsageError Conversion := do
  refuseBoth reading "ignore-suppressed" "include-suppressed"
  return {
    output := reading.value? "output"
    ignoreSuppressed :=
      if reading.uses "ignore-suppressed" then some true
      else if reading.uses "include-suppressed" then some false
      else none
    toolName := (reading.value? "tool-name").filter fun name => !name.isEmpty
    toolVersion := (reading.value? "tool-version").filter fun version => !version.isEmpty
    noFingerprints := reading.uses "no-fingerprints"
    failOnError := reading.uses "fail-on-error" }

/-- What a command line asks for. -/
structure Asked where
  /-- The paths that options name, in the order of first use, with what is asked of each.  They are
  looked at before the request. -/
  paths : List (ValueRule × Text) := []
  request : Except UsageError Request

/-- A faulty command line. -/
def Asked.refused (error : UsageError) : Asked where
  request := .error error

/-- A request whatever else is asked for. -/
def Asked.immediate (request : Request) : Asked where
  request := .ok request

/-- The task of a job, from what is read behind the command. -/
def readTask (verbosity : Logging.Verbosity) (job : Reading → Except UsageError Job)
    (reading : Reading) : Except UsageError Task := do
  let input ← readInput reading
  let job ← job reading
  return {
    job
    input
    projectRoot := reading.value? "project-root"
    baseFolder := reading.value? "base-folder"
    verbosity }

/-- What the arguments behind the command ask for. -/
def askJob (verbosity : Logging.Verbosity) (rules : List OptionRule)
    (job : Reading → Except UsageError Job) (arguments : List Text) : Asked :=
  match Reading.ofArguments rules true arguments with
  | .error error => .refused error
  | .ok reading =>
      if reading.uses "help" then .immediate .help
      else
        { paths := reading.pathValues rules
          request := (readTask verbosity job reading).map .run }

/-- How the arguments of the command of some name are read. -/
def command? (verbosity : Logging.Verbosity) (name : Text) : Option (List Text → Asked) :=
  if name = Text.ofString "convert" then
    some (askJob verbosity convertRules fun reading => (readConversion reading).map .convert)
  else if name = Text.ofString "summary" then
    some (askJob verbosity folderRules fun _ => .ok .summary)
  else none

/-- The request that the first of two options makes, whatever else is asked for. -/
def immediate? (reading : Reading) : Option Request :=
  (reading.firstOf? ["version", "help"]).map fun name =>
    if name = Text.ofString "version" then .version else .help

/-- What is asked for by arguments of which the first is no command.  If it could be an option, as it
can behind two hyphens, the options among them are still heeded. -/
def askWithoutCommand (name : Text) (arguments : List Text) : Asked :=
  match Reading.ofArguments programRules false (name :: arguments) with
  | .error error => .refused error
  | .ok reading =>
      match immediate? reading with
      | some request => .immediate request
      | none => .refused (.unknownCommand name)

/-- What is asked for by the arguments behind the options of the program. -/
def askCommand (reading : Reading) : (arguments : List Text) → Asked
  | [] => .refused .missingCommand
  | name :: arguments =>
      match command? (.ofFlags (reading.uses "verbose") (reading.uses "quiet")) name with
      | none => askWithoutCommand name arguments
      | some ask =>
          match refuseBoth reading "verbose" "quiet" with
          | .error error => .refused error
          | .ok _ => ask arguments

/-- What a command line asks for. -/
def Asked.ofArguments (arguments : List Text) : Asked :=
  match Reading.ofArguments programRules false arguments with
  | .error error => .refused error
  | .ok reading =>
      match immediate? reading with
      | some request => .immediate request
      | none => askCommand reading reading.operands

end Findings.Command
