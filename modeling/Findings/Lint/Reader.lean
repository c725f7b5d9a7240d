import Findings.Json.Reader
import Findings.Json.Spelling
import Findings.Lint.Basic

/-!
Contract: reading a lint report from JSON text.

Owns: the two shapes of a report, an array of file results or an object that holds the array under
`results` and rule metadata besides; and the tolerance of both: entries of the wrong kind are left
out, members of the wrong kind count as missing, unknown members are ignored.

Does not own: the JSON language (`Findings.Json.Reader`).
-/

set_option autoImplicit false

namespace Findings.Lint

/-- Why a text is no lint report. -/
inductive ReportError where
  | malformed (fault : Json.Fault) (place : Text.Place)
  | resultsNotList
  | neitherArrayNorObject
deriving DecidableEq, Repr

def ReportError.message : ReportError → Text
  | .malformed fault place =>
      Text.ofString "Invalid JSON: " ++ (Json.ReadError.malformed fault place).message
  | .resultsNotList => "ESLint report `results` must be a list."
  | .neitherArrayNorObject => "ESLint report must be a JSON array or object."

/-- Why a text cannot be read: it is no report, or it holds an integer of too many digits. -/
inductive ReadError where
  | report (error : ReportError)
  | excessiveInteger (digits : Nat)
deriving DecidableEq, Repr

def ReadError.message : ReadError → Text
  | .report error => error.message
  | .excessiveInteger digits => Numeral.excessMessage digits

/-! ## Members -/

section Members

variable (members : Entries Json)

/-- The text under a name. -/
def textMember (name : Text) : Option Text := (Entries.find? name members).bind Json.text?

/-- The integer under a name. -/
def intMember (name : Text) : Option Int := (Entries.find? name members).bind Json.int?

/-- The array under a name. -/
def arrayMember (name : Text) : Option (List Json) :=
  (Entries.find? name members).bind Json.array?

/-- The object under a name. -/
def objectMember (name : Text) : Option (Entries Json) :=
  (Entries.find? name members).bind Json.object?

/-- The spelling of whatever stands under a name; nothing when the name is missing. -/
def spelledMember (name : Text) : Text :=
  match Entries.find? name members with
  | some value => value.spelling
  | none => []

/-- Whether a name stands for the truth value true. -/
def isTrueMember (name : Text) : Bool :=
  match Entries.find? name members with
  | some (.bool value) => value
  | _ => false

/-- The text under a name, unless it is empty. -/
def properTextMember (name : Text) : Option Text :=
  (textMember members name).filter fun text => !text.isEmpty

end Members

/-! ## The parts of a report -/

/-- The suppression that an object describes. -/
def readSuppression (members : Entries Json) : Suppression where
  kind := spelledMember members "kind"
  justification := textMember members "justification"

/-- The message that an object describes. -/
def readMessage (members : Entries Json) : Message where
  text := spelledMember members "message"
  severity := (intMember members "severity").getD warningSeverity
  fatal := isTrueMember members "fatal"
  ruleId := properTextMember members "ruleId"
  line := intMember members "line"
  column := intMember members "column"
  endLine := intMember members "endLine"
  endColumn := intMember members "endColumn"
  source := textMember members "source"
  suppressions := (arrayMember members "suppressions").map fun items =>
    (items.filterMap Json.object?).map readSuppression

/-- The messages under a name. -/
def readMessages (members : Entries Json) (name : Text) : List Message :=
  (((arrayMember members name).getD []).filterMap Json.object?).map readMessage

/-- The file result that an object describes; none without a path. -/
def readFileResult? (members : Entries Json) : Option FileResult :=
  (properTextMember members "filePath").map fun path =>
    { path := path
      messages := readMessages members "messages"
      suppressedMessages := readMessages members "suppressedMessages" }

/-- The documentation that an object describes. -/
def readDocs (members : Entries Json) : RuleDocs where
  description := textMember members "description"
  url := textMember members "url"
  category := textMember members "category"

/-- The metadata that a value describes; none unless it is an object. -/
def readRuleMeta? (value : Json) : Option RuleMeta :=
  value.object?.map fun members =>
    { docs := (objectMember members "docs").map readDocs
      kind := textMember members "type" }

/-- The rule metadata in the members of a report. -/
def readRules (members : Entries Json) : RuleTable :=
  match (objectMember members "metadata").bind fun metadata => objectMember metadata "rulesMeta" with
  | some rules => Entries.mapValues readRuleMeta? rules
  | none => []

/-- The file results in an array. -/
def readResults (items : List Json) : List FileResult :=
  (items.filterMap Json.object?).filterMap readFileResult?

/-- The report that a value denotes. -/
def reportOfJson : Json → Except ReportError Report
  | .array items => .ok { results := readResults items }
  | .object members =>
      match arrayMember members "results" with
      | some items => .ok { results := readResults items, rules := readRules members }
      | none => .error .resultsNotList
  | _ => .error .neitherArrayNorObject

/-- Read a report from text. -/
def readReport (text : Text) : Except ReadError Report :=
  match Json.read text with
  | .error (.malformed fault place) => .error (.report (.malformed fault place))
  | .error (.excessiveInteger digits) => .error (.excessiveInteger digits)
  | .ok value => (reportOfJson value).mapError .report

/-- How many objects in an array of file results are left out because they have no path. -/
def skippedResults (items : List Json) : Nat :=
  (items.filterMap Json.object?).countP fun members => (readFileResult? members).isNone

/-- How many file results of a value are left out. -/
def skippedInJson : Json → Nat
  | .array items => skippedResults items
  | .object members => ((arrayMember members "results").map skippedResults).getD 0
  | _ => 0

/-- How many file results of a text are left out. -/
def skippedIn (text : Text) : Nat :=
  match Json.read text with
  | .error _ => 0
  | .ok value => skippedInJson value

end Findings.Lint
