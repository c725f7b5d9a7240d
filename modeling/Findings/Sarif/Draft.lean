import Findings.Lint.Basic
import Findings.Path.Relative
import Findings.Sarif.Fingerprint
import Findings.Sarif.Log
import Findings.Sarif.RuleName

/-!
Contract: from a lint report to a SARIF log.

Owns:
- the options of a conversion;
- the draft of a run, to which files and messages are added one by one: artifacts and rules are
  listed once each, in the order in which they are first needed;
- `Log.ofReport`, the log of a report.

A message with a rule id becomes a result, every other one a notification.  The only failure is a
fingerprint of text that holds a surrogate.
-/

set_option autoImplicit false

namespace Findings.Sarif

open Findings.Lint

/-- What a conversion can be told. -/
structure Options where
  ignoreSuppressed : Bool := false
  toolVersion : Option Text := none
  baseFolder : Text := []
  toolName : Text := Text.ofString "ESLint"
  informationUri : Text := Text.ofString "https://eslint.org"
  fingerprints : Bool := true
  indexRules : Bool := true
deriving DecidableEq

/-! ## The parts of an entry -/

/-- A fatal message and a message of the severity of errors are errors. -/
def levelOf (message : Message) : Level :=
  if message.fatal ∨ message.severity = errorSeverity then .error else .warning

/-- The source text of a message, unless it is empty. -/
def snippetOf (message : Message) : Option Text :=
  message.source.filter fun source => !source.isEmpty

/-- The region of a message: its positions if it has a line or a column, and its source text. -/
def regionOf (message : Message) : Option Region :=
  if message.line.isSome ∨ message.column.isSome then
    some {
      startLine := message.line
      startColumn := message.column
      endLine := message.endLine
      endColumn := message.endColumn
      snippet := snippetOf message }
  else (snippetOf message).map fun snippet => { snippet := some snippet }

/-- The kind of suppression that is written in the file. -/
def directiveKind : Text := Text.ofString "directive"

def suppressionOf (suppression : Lint.Suppression) : Suppression where
  kind := if suppression.kind = directiveKind then .inSource else .external
  justification := suppression.justification.getD []

/-- The category of rules that tell none. -/
def noCategory : Text := Text.ofString "No category provided"

/-- The name of rules without documentation. -/
def noCategoryName : Text := Text.ofString "NoCategoryProvided"

/-- The description of rules without documentation. -/
def noCategoryDescription : Text := Text.ofString "Please see details in message"

/-- The descriptor of a rule. -/
def descriptorOf (ruleId : Text) (known : RuleMeta) : RuleDescriptor :=
  match known.docs with
  | none =>
      { id := ruleId
        name := noCategoryName
        description := noCategoryDescription
        category := noCategory }
  | some docs =>
      { id := ruleId
        name := displayName ruleId
        helpUri := docs.url.filter fun url => !url.isEmpty
        description := docs.description.getD []
        category := (docs.category.filter fun category => !category.isEmpty).getD noCategory }

/-- The rule id of a message, unless it is empty. -/
def properRuleId (message : Message) : Option Text :=
  message.ruleId.filter fun ruleId => !ruleId.isEmpty

/-! ## The draft of a run -/

/-- What is collected of a run so far. -/
structure Draft where
  artifacts : Array Artifact := #[]
  rules : Array RuleDescriptor := #[]
  results : Array Result := #[]
  notifications : Array Finding := #[]

namespace Draft

/-- Find a file among the artifacts, or list it at the end. -/
def addArtifact (draft : Draft) (uri : Text) : Draft × Nat :=
  match draft.artifacts.findIdx? fun artifact => artifact.uri = uri with
  | some index => (draft, index)
  | none => ({ draft with artifacts := draft.artifacts.push ⟨uri⟩ }, draft.artifacts.size)

/-- Find a rule among the descriptors, or list it at the end.  A rule without metadata is never
listed. -/
def addRule (draft : Draft) (rules : RuleTable) (ruleId : Text) : Draft × Option Nat :=
  match draft.rules.findIdx? fun rule => rule.id = ruleId with
  | some index => (draft, some index)
  | none =>
      match rules.meta? ruleId with
      | none => (draft, none)
      | some known =>
          ({ draft with rules := draft.rules.push (descriptorOf ruleId known) },
            some draft.rules.size)

/-- The fingerprints of a message that all kinds of entries have. -/
def fingerprintsOf (options : Options) (message : Message) (uri : Text) :
    Except Text.EncodeFault (Option Fingerprints) :=
  if options.fingerprints then do
    let ofMessage ← fingerprint message.text
    let ofUri ← fingerprint uri
    return some { message := ofMessage, artifactUri := ofUri }
  else return none

/-- Add the fingerprint of a rule id to the others. -/
def withRuleFingerprint (ruleId : Text) :
    Option Fingerprints → Except Text.EncodeFault (Option Fingerprints)
  | none => return none
  | some prints => do
      let ofRule ← fingerprint ruleId
      return some { prints with ruleId := some ofRule }

/-- Add a message of a file that is listed at `index`.  `merged` tells whether the suppressed
messages of the file are taken in. -/
def addMessage (options : Options) (rules : RuleTable) (uri : Text) (index : Nat) (merged : Bool)
    (draft : Draft) (message : Message) : Except Text.EncodeFault Draft := do
  let prints ← fingerprintsOf options message uri
  let finding : Finding := {
    level := levelOf message
    text := message.text
    location := { uri := uri, index := index, region := regionOf message }
    fingerprints := prints }
  match properRuleId message with
  | none => return { draft with notifications := draft.notifications.push finding }
  | some ruleId =>
      let (draft, ruleIndex) :=
        if options.indexRules then draft.addRule rules ruleId else (draft, none)
      let prints ← withRuleFingerprint ruleId prints
      let result : Result := {
        finding := { finding with fingerprints := prints }
        ruleId := ruleId
        ruleIndex := ruleIndex
        suppressions :=
          if merged then some ((message.suppressions.getD []).map suppressionOf) else none }
      return { draft with results := draft.results.push result }

/-- Whether the suppressed messages of a file are taken in. -/
def mergesSuppressed (options : Options) (file : FileResult) : Bool :=
  !file.suppressedMessages.isEmpty && !options.ignoreSuppressed

/-- The messages of a file that are taken in, in order. -/
def messagesOf (options : Options) (file : FileResult) : List Message :=
  if mergesSuppressed options file then file.messages ++ file.suppressedMessages
  else file.messages

/-- Add a file; one without messages leaves no trace. -/
def addFile (options : Options) (rules : RuleTable) (draft : Draft) (file : FileResult) :
    Except Text.EncodeFault Draft :=
  match messagesOf options file with
  | [] => return draft
  | messages =>
      let uri := relativeUri file.path options.baseFolder
      let (draft, index) := draft.addArtifact uri
      messages.foldlM (addMessage options rules uri index (mergesSuppressed options file)) draft

/-- The log of a finished draft. -/
def finish (options : Options) (draft : Draft) : Log where
  driver := {
    name := options.toolName
    version := options.toolVersion
    informationUri := options.informationUri
    rules := draft.rules.toList }
  artifacts := draft.artifacts.toList
  results := draft.results.toList
  notifications := draft.notifications.toList

end Draft

/-- The log of file results under rule metadata. -/
def Log.ofResults (options : Options) (rules : RuleTable) (files : List FileResult) :
    Except Text.EncodeFault Log := do
  let draft ← files.foldlM (Draft.addFile options rules) {}
  return draft.finish options

/-- The log of a report. -/
def Log.ofReport (options : Options) (report : Report) : Except Text.EncodeFault Log :=
  Log.ofResults options report.rules report.results

/-- The rule ids, in order of the messages, for which the rule table had nothing to list. -/
def rulesWithoutMeta (options : Options) (rules : RuleTable) (files : List FileResult) :
    List Text :=
  if options.indexRules then
    (files.flatMap (Draft.messagesOf options)).filterMap fun message =>
      (properRuleId message).filter fun ruleId => (rules.meta? ruleId).isNone
  else []

end Findings.Sarif
