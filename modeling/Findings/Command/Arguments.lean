import Findings.Text.Basic

/-!
Contract: options and operands of a command line.

Owns:
- the reading of arguments against the options that a command knows;
- the errors of usage, with their wording.

An option is written `--name`, and `-l` if it has a letter.  Letters of several options can be
written together.  A value follows its option as the next argument, behind an equals sign, or right
behind the letter.  Two hyphens alone end the options.
-/

set_option autoImplicit false

namespace Findings.Command

/-- What follows an option: nothing, any text, a path, a path that is made absolute, or such a path
of a directory. -/
inductive ValueRule where
  | none
  | text
  | path
  | absolutePath
  | directory
deriving DecidableEq, Repr

/-- An option that a command knows. -/
structure OptionRule where
  name : Text
  letter : Option CodePoint := none
  value : ValueRule := .none
deriving DecidableEq

/-- Whether a value follows an option. -/
def OptionRule.takesValue (rule : OptionRule) : Bool := rule.value != .none

/-- Why arguments make no request. -/
inductive UsageError where
  | unknownOption (written : Text)
  | missingValue (name : Text)
  | unexpectedValue (name : Text)
  | conflictingOptions (first second : Text)
  | missingCommand
  | unknownCommand (name : Text)
  | missingInput
  | extraArgument (written : Text)
  | notDirectory (path : Text)
deriving DecidableEq

def UsageError.message : UsageError → Text
  | .unknownOption written => Text.ofString "No such option: " ++ written
  | .missingValue name => Text.ofString "Option --" ++ name ++ Text.ofString " requires a value."
  | .unexpectedValue name => Text.ofString "Option --" ++ name ++ Text.ofString " takes no value."
  | .conflictingOptions first second =>
      Text.ofString "Choose at most one: --" ++ first ++ Text.ofString " or --" ++ second
        ++ Text.ofString "."
  | .missingCommand => "Missing command."
  | .unknownCommand name => Text.ofString "No such command: " ++ name
  | .missingInput => "Missing argument: the report to read."
  | .extraArgument written => Text.ofString "Unexpected extra argument: " ++ written
  | .notDirectory path => Text.ofString "Not an existing directory: " ++ path

/-- One use of an option. -/
structure Occurrence where
  name : Text
  value : Option Text := none
deriving DecidableEq

/-- What the next argument can be. -/
inductive Mode where
  | anything
  | valueOf (name : Text)
  | operand
deriving DecidableEq

/-- Arguments that are read: the uses of options and the other arguments, each in order. -/
structure Reading where
  occurrences : List Occurrence := []
  operands : List Text := []
  mode : Mode := .anything

namespace Reading

/-- Record the use of an option whose value, if it takes one, is still to come. -/
def use (reading : Reading) (rule : OptionRule) : Reading :=
  if rule.takesValue then { reading with mode := .valueOf rule.name }
  else { reading with occurrences := reading.occurrences ++ [{ name := rule.name }] }

/-- Record the use of an option with a value. -/
def useWith (reading : Reading) (name value : Text) : Reading :=
  { reading with
    occurrences := reading.occurrences ++ [{ name := name, value := some value }]
    mode := .anything }

/-- Read letters of options.  All that is behind the letter of an option with a value is the
value. -/
def readLetters (rules : List OptionRule) (reading : Reading) :
    (letters : Text) → Except UsageError Reading
  | [] => .ok reading
  | letter :: rest =>
      match rules.find? fun rule => rule.letter = some letter with
      | none => .error (.unknownOption [CodePoint.ofChar '-', letter])
      | some rule =>
          if rule.takesValue ∧ rest ≠ [] then .ok (reading.useWith rule.name rest)
          else readLetters rules (reading.use rule) rest

/-- The part of an argument before its first equals sign, and what is behind the sign. -/
def splitEquals (argument : Text) : Text × Option Text :=
  match argument.dropWhile (· ≠ CodePoint.ofChar '=') with
  | [] => (argument, none)
  | _ :: value => (argument.takeWhile (· ≠ CodePoint.ofChar '='), some value)

/-- Read an argument that begins with a hyphen. -/
def readOption (rules : List OptionRule) (reading : Reading) (argument : Text) :
    Except UsageError Reading :=
  let (written, value) := splitEquals argument
  match rules.find? fun rule => Text.ofString "--" ++ rule.name = written with
  | some rule =>
      match value with
      | none => .ok (reading.use rule)
      | some value =>
          if rule.takesValue then .ok (reading.useWith rule.name value)
          else .error (.unexpectedValue rule.name)
  | none =>
      if Text.startsWith argument "--" then .error (.unknownOption written)
      else readLetters rules reading (argument.drop 1)

/-- Read one more argument.  Where options cannot follow an operand, it ends them. -/
def step (rules : List OptionRule) (optionsFollow : Bool) (reading : Reading) (argument : Text) :
    Except UsageError Reading :=
  match reading.mode with
  | .valueOf name => .ok (reading.useWith name argument)
  | .operand => .ok { reading with operands := reading.operands ++ [argument] }
  | .anything =>
      if argument = Text.ofString "--" then .ok { reading with mode := .operand }
      else if Text.startsWith argument "-" ∧ 1 < argument.length then
        readOption rules reading argument
      else
        .ok { reading with
          operands := reading.operands ++ [argument]
          mode := if optionsFollow then .anything else .operand }

/-- Read arguments. -/
def ofArguments (rules : List OptionRule) (optionsFollow : Bool) (arguments : List Text) :
    Except UsageError Reading := do
  let reading ← arguments.foldlM (step rules optionsFollow) {}
  match reading.mode with
  | .valueOf name => .error (.missingValue name)
  | _ => .ok reading

/-- Whether an option is used. -/
def uses (reading : Reading) (name : Text) : Bool :=
  reading.occurrences.any fun occurrence => occurrence.name = name

/-- The value of the last use of an option. -/
def value? (reading : Reading) (name : Text) : Option Text :=
  (reading.occurrences.reverse.find? fun occurrence => occurrence.name = name).bind (·.value)

/-- The rules of the options that are used, in the order of first use. -/
def usedRules (rules : List OptionRule) (reading : Reading) : List OptionRule :=
  (reading.occurrences.map (·.name)).eraseDups.filterMap fun name =>
    rules.find? fun rule => rule.name = name

/-- The values of options that have to be paths, with what is asked of each, in the order in which
the options are first used. -/
def pathValues (rules : List OptionRule) (reading : Reading) : List (ValueRule × Text) :=
  (reading.usedRules rules).filterMap fun rule =>
    if rule.value = .none ∨ rule.value = .text then none
    else (reading.value? rule.name).map fun value => (rule.value, value)

/-- The first used of some options. -/
def firstOf? (reading : Reading) (names : List Text) : Option Text :=
  (reading.occurrences.find? fun occurrence => names.contains occurrence.name).map (·.name)

end Reading

end Findings.Command
