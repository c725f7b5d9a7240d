import Findings.Proofs.Entries
import Findings.Proofs.Text.CodePoint
import Findings.Sarif.Encoding

/-!
Contract: looking into the JSON form of a log.

Owns:
- look-up of a name in written members;
- the views of a document that a reader of the format takes: its run, the results and notifications
  of the run, and the place of an entry.

A list that is left out of a document reads as the empty list.
-/

set_option autoImplicit false

namespace Findings

/-! ## Members -/

namespace Sarif

@[simp] theorem find?_member (name : Text) (label : String) (value : Json) :
    Entries.find? name (member label value) =
      if Text.ofString label = name then some value else none := rfl

@[simp] theorem find?_member? {α : Type} (name : Text) (label : String) (value : Option α)
    (encode : α → Json) :
    Entries.find? name (member? label value encode) =
      if Text.ofString label = name then value.map encode else none := by
  cases value with
  | none => simp [member?, Entries.find?]
  | some value => rfl

@[simp] theorem member?_object (name : Text) (members : List (Text × Json)) :
    (Json.object members).member? name = Entries.find? name members := rfl

/-! ## Views -/

/-- The one item of an array. -/
def onlyItem? : Json → Option Json
  | .array [item] => some item
  | _ => none

/-- The items of an array under a name; none when the name is missing. -/
def itemsAt (name : String) (value : Json) : List Json :=
  ((value.member? name).bind Json.array?).getD []

/-- The run of a document. -/
def runOf (document : Json) : Json :=
  ((document.member? "runs").bind onlyItem?).getD .null

/-- The results that a document shows. -/
def resultsIn (document : Json) : List Json := itemsAt "results" (runOf document)

/-- The notifications that a document shows. -/
def notificationsIn (document : Json) : List Json :=
  ((((runOf document).member? "invocations").bind onlyItem?).map
    (itemsAt "toolConfigurationNotifications")).getD []

/-- Whether a document tells that the run succeeded or failed. -/
def successIn? (document : Json) : Option Json :=
  (((runOf document).member? "invocations").bind onlyItem?).bind (Json.member? "executionSuccessful")

/-- All entries that a document shows. -/
def entriesIn (document : Json) : List Json := resultsIn document ++ notificationsIn document

/-- The artifacts that a document shows. -/
def artifactsIn (document : Json) : List Json := itemsAt "artifacts" (runOf document)

/-- The tool of the run of a document. -/
def driverOf (document : Json) : Json :=
  (((runOf document).member? "tool").bind (Json.member? "driver")).getD .null

/-- The descriptors of rules that a document shows. -/
def rulesIn (document : Json) : List Json := itemsAt "rules" (driverOf document)

/-- The rule ids of the results of a document, one by one. -/
def ruleIdsIn (document : Json) : List Text :=
  (resultsIn document).filterMap fun result => (result.member? "ruleId").bind Json.text?

/-- The physical location of an entry. -/
def placeOf? (entry : Json) : Option Json :=
  ((entry.member? "locations").bind onlyItem?).bind (Json.member? "physicalLocation")

/-- The location of its file that an entry shows. -/
def shownUri? (entry : Json) : Option Json :=
  ((placeOf? entry).bind (Json.member? "artifactLocation")).bind (Json.member? "uri")

/-- The place of its file among the artifacts that an entry shows. -/
def shownIndex? (entry : Json) : Option Json :=
  ((placeOf? entry).bind (Json.member? "artifactLocation")).bind (Json.member? "index")

@[simp] theorem placeOf?_members (finding : Finding) (more : List (Text × Json)) :
    placeOf? (.object (finding.members ++ more)) =
      some (.object (
        member "artifactLocation" (.object (
          member "uri" (.text finding.location.uri)
            ++ member "index" (natValue finding.location.index)))
        ++ member? "region" finding.location.region Region.toJson)) := by
  simp [placeOf?, Finding.members, Entries.find?_append, onlyItem?, Location.toJson]

@[simp] theorem runOf_toJson (log : Log) : runOf log.toJson = log.runToJson := by
  simp [runOf, Log.toJson, Entries.find?_append, onlyItem?]

@[simp] theorem resultsIn_toJson (log : Log) :
    resultsIn log.toJson = log.results.map Result.toJson := by
  simp [resultsIn, itemsAt, Log.runToJson, Entries.find?_append, Json.array?]

@[simp] theorem notificationsIn_toJson (log : Log) :
    notificationsIn log.toJson = log.notifications.map Finding.toJson := by
  unfold notificationsIn
  rw [runOf_toJson]
  cases shown : log.notifications with
  | nil => simp [Log.runToJson, Entries.find?_append, shown, listUnlessEmpty]
  | cons first rest =>
      simp [Log.runToJson, Entries.find?_append, shown, listUnlessEmpty, onlyItem?, itemsAt,
        Log.invocation, Json.array?]

/-- A document tells of success or failure when it has notifications. -/
@[simp] theorem successIn?_toJson (log : Log) :
    successIn? log.toJson =
      if log.notifications = [] then none else some (.bool log.executionSuccessful) := by
  unfold successIn?
  rw [runOf_toJson]
  cases shown : log.notifications with
  | nil => simp [Log.runToJson, Entries.find?_append, shown, listUnlessEmpty]
  | cons first rest =>
      simp [Log.runToJson, Entries.find?_append, shown, listUnlessEmpty, onlyItem?, Log.invocation]

/-- A document tells of a failure just when one of its notifications is an error. -/
theorem successIn?_eq_false_iff (log : Log) :
    successIn? log.toJson = some (.bool false) ↔
      ∃ notification ∈ log.notifications, notification.level = .error := by
  rw [successIn?_toJson]
  unfold Log.executionSuccessful
  constructor
  · intro failed
    split at failed
    · cases failed
    · have notAll := Json.bool.inj (Option.some.inj failed)
      simpa using notAll
  · rintro ⟨notification, member, isError⟩
    have someShown : log.notifications ≠ [] := List.ne_nil_of_mem member
    have notAll : (log.notifications.all fun other => other.level != .error) = false := by
      rw [List.all_eq_false]
      exact ⟨notification, member, by simp [isError]⟩
    rw [if_neg someShown, notAll]

@[simp] theorem artifactsIn_toJson (log : Log) :
    artifactsIn log.toJson = log.artifacts.map Artifact.toJson := by
  unfold artifactsIn
  rw [runOf_toJson]
  cases shown : log.artifacts with
  | nil => simp [itemsAt, Log.runToJson, Entries.find?_append, shown, listUnlessEmpty]
  | cons first rest =>
      simp [itemsAt, Log.runToJson, Entries.find?_append, shown, listUnlessEmpty, Json.array?]

@[simp] theorem rulesIn_toJson (log : Log) :
    rulesIn log.toJson = log.driver.rules.map RuleDescriptor.toJson := by
  unfold rulesIn driverOf
  rw [runOf_toJson]
  simp [itemsAt, Log.runToJson, Driver.toJson, Entries.find?_append, Json.array?]

@[simp] theorem member?_id_descriptor (rule : RuleDescriptor) :
    rule.toJson.member? "id" = some (.text rule.id) := by
  simp [RuleDescriptor.toJson, Entries.find?_append]

@[simp] theorem member?_ruleId_result (result : Result) :
    result.toJson.member? "ruleId" = some (.text result.ruleId) := by
  simp [Result.toJson, Finding.members, Entries.find?_append]

@[simp] theorem member?_ruleIndex_result (result : Result) :
    result.toJson.member? "ruleIndex" = result.ruleIndex.map natValue := by
  simp [Result.toJson, Finding.members, Entries.find?_append]

@[simp] theorem ruleIdsIn_toJson (log : Log) :
    ruleIdsIn log.toJson = log.results.map Result.ruleId := by
  unfold ruleIdsIn
  rw [resultsIn_toJson, List.filterMap_map]
  simp [Function.comp_def, Json.text?]

/-- The artifacts are left out when there are none. -/
theorem artifacts_eq_none_iff (log : Log) :
    (runOf log.toJson).member? "artifacts" = none ↔ log.artifacts = [] := by
  rw [runOf_toJson]
  cases shown : log.artifacts with
  | nil => simp [Log.runToJson, Entries.find?_append, shown, listUnlessEmpty]
  | cons first rest => simp [Log.runToJson, Entries.find?_append, shown, listUnlessEmpty]

end Sarif

end Findings
