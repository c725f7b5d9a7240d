import Findings.Json.Order
import Findings.Sarif.Encoding

/-!
Contract: what a summary tells about a log.

Owns: the type `View` and reading it from the JSON form of a log.  The findings are grouped by file,
files in order of their uris, in each group the notifications before the results.

Does not own: how a view is printed (`Findings.Summary.Print`).

The log may come from elsewhere: whatever a summary does not look at may be missing or of another
kind, and what it looks at in vain is reported as an access fault.
-/

set_option autoImplicit false

namespace Findings.Summary

open Findings.Json (AccessFault)

/-- One finding. -/
structure Entry where
  icon : Text
  label : Text
  position : Text
  text : Text
  suppressed : Bool
deriving DecidableEq

/-- The findings in one file. -/
structure Group where
  uri : Text
  entries : List Entry
deriving DecidableEq

structure View where
  toolName : Text
  artifacts : Nat
  groups : List Group
  results : Nat
  suppressed : Nat
  rules : Nat
  notifications : Nat
  successful : Bool
deriving DecidableEq

/-! ## Findings -/

/-- The icon of a level; levels that are neither errors nor warnings share one. -/
def iconOf (level : Json) : Text :=
  match level.text? with
  | some level =>
      if level = Text.ofString "error" then "✖"
      else if level = Text.ofString "warning" then "⚠"
      else "•"
  | none => "•"

/-- Where a finding is. -/
def physicalLocation (entry : Json) : Except AccessFault Json := do
  let locations ← entry.member "locations"
  let location ← locations.firstItem
  location.member "physicalLocation"

/-- The file that a finding is in. -/
def uriOf (entry : Json) : Except AccessFault Json := do
  let location ← physicalLocation entry
  let artifact ← location.member "artifactLocation"
  let uri ← artifact.member "uri"
  uri.checkKey
  return uri

/-- Whether a part occurs in a text. -/
def occursIn (part : Text) : Text → Bool
  | [] => part.isEmpty
  | c :: rest => Text.startsWith (c :: rest) part || occursIn part rest

/-- Whether a name occurs in a value. -/
def hasName (name : Text) (value : Json) : Except AccessFault Bool :=
  match value with
  | .object members => .ok (Entries.find? name members).isSome
  | .array items => .ok (items.any fun item => item.text? = some name)
  | .text value => .ok (occursIn name value)
  | value => .error (.notSearchable value.kind)

/-- The position of a finding as line and column; empty when the line is not known. -/
def positionOf (entry : Json) : Except AccessFault Text := do
  let location ← physicalLocation entry
  let region ← location.memberD "region" (.object [])
  if ← hasName (Text.ofString "startLine") region then
    let line ← region.member "startLine"
    if ← hasName (Text.ofString "startColumn") region then
      let column ← region.member "startColumn"
      return line.spelling ++ Text.ofString ":" ++ column.spelling
    else return line.spelling
  else return []

/-- What a finding is labelled with: its rule, or else its descriptor. -/
def labelOf (entry : Json) : Except AccessFault Json := do
  let ruleId ← entry.memberD "ruleId" .null
  if ruleId.isTruthy then return ruleId
  else
    let descriptor ← entry.memberD "descriptor" (.object [])
    descriptor.memberD "id" (.text (Text.ofString "?"))

/-- Read a finding. -/
def readEntry (entry : Json) : Except AccessFault Entry := do
  let level ← entry.memberD "level" (.text (Text.ofString "warning"))
  let label ← labelOf entry
  level.checkKey
  match label with
  | .text label =>
      let position ← positionOf entry
      let message ← entry.member "message"
      let text ← message.member "text"
      let suppressions ← entry.memberD "suppressions" .null
      return {
        icon := iconOf level
        label := label
        position := position
        text := text.spelling
        suppressed := suppressions.isTruthy }
  | _ => throw .notText

/-! ## Groups -/

/-- Add an item to the group of its key. -/
def addToGroup {α : Type} (groups : Entries (List α)) (item : Text × α) : Entries (List α) :=
  Entries.insert item.1 ((Entries.find? item.1 groups).getD [] ++ [item.2]) groups

/-- Group items by key, keys in ascending order, items in their order. -/
def groupSorted {α : Type} (items : List (Text × α)) : Entries (List α) :=
  (items.foldl addToGroup []).mergeSort fun left right => Text.ble left.1 right.1

/-- The fault of uris that are not all texts: two that have no order, or else the first one in order,
which is no text. -/
def uriFault (uris : List Json) : AccessFault :=
  match Json.sort (Json.distinctKeys uris) with
  | .error fault => fault
  | .ok [] => .notText
  | .ok (first :: _) => .notObject first.kind (Text.ofString "translate")

/-- The uris as texts. -/
def textUris (located : List (Json × Json)) : Except AccessFault (List (Text × Json)) :=
  if located.all fun item => item.1.text?.isSome then
    .ok (located.filterMap fun item => item.1.text?.map fun uri => (uri, item.2))
  else .error (uriFault (located.map Prod.fst))

/-- Read findings and group them by file. -/
def readGroups (entries : List Json) : Except AccessFault (List Group) := do
  let located ← entries.mapM fun entry => do return (← uriOf entry, entry)
  let items ← textUris located
  (groupSorted items).mapM fun group => do
    let entries ← group.2.mapM readEntry
    return { uri := group.1, entries := entries }

/-! ## The whole log -/

/-- The name of the tool, together with its version if that is known. -/
def toolNameOf (driver : Json) : Except AccessFault Text := do
  discard (driver.memberD "fullName" .null)
  let name ← driver.member "name"
  let fullName ← driver.memberD "fullName" name
  return fullName.spelling

/-- All notifications of the invocations. -/
def notificationsOf (invocations : List Json) : Except AccessFault (List Json) := do
  let lists ← invocations.mapM fun invocation => do
    (← invocation.memberD "toolConfigurationNotifications" (.array [])).iterate
  return lists.flatten

/-- Whether every invocation succeeded; one that does not tell did. -/
def successfulOf (invocations : List Json) : Except AccessFault Bool := do
  let flags ← invocations.mapM fun invocation =>
    invocation.memberD "executionSuccessful" (.bool true)
  return flags.all Json.isTruthy

/-- Whether a result is suppressed. -/
def isSuppressed (result : Json) : Except AccessFault Bool := do
  return (← result.memberD "suppressions" .null).isTruthy

/-- The findings of a log by file. -/
def detailsOf (notifications : List Json) (results : Json) : Except AccessFault (List Group) :=
  match results.parts? with
  | some results => readGroups (notifications ++ results)
  | none => .error (.notSpreadable results.kind)

/-- Read what a summary tells about the first run of a log.  Without `details` the findings are not
looked at. -/
def View.ofJson (details : Bool) (log : Json) : Except AccessFault View := do
  let runs ← log.member "runs"
  let run ← runs.firstItem
  let tool ← run.member "tool"
  let driver ← tool.member "driver"
  let artifacts ← run.memberD "artifacts" (.array [])
  let results ← run.memberD "results" (.array [])
  let invocations ← (← run.memberD "invocations" (.array [])).iterate
  let notifications ← notificationsOf invocations
  let successful ← successfulOf invocations
  let toolName ← toolNameOf driver
  let artifactCount ← artifacts.size
  let groups ← if details then detailsOf notifications results else pure []
  let suppressed ← (← results.iterate).mapM isSuppressed
  let resultCount ← results.size
  let ruleCount ← (← driver.memberD "rules" (.array [])).size
  return {
    toolName := toolName
    artifacts := artifactCount
    groups := groups
    results := resultCount
    suppressed := suppressed.count true
    rules := ruleCount
    notifications := notifications.length
    successful := successful }

end Findings.Summary
