import Findings.Json.Writer
import Findings.Sarif.Log

/-!
Contract: the JSON form of a SARIF 2.1.0 log.

Owns: the members of every part in their order, and which of them are left out when there is nothing
to say.
-/

set_option autoImplicit false

namespace Findings.Sarif

/-- A member that is always present. -/
def member (name : String) (value : Json) : List (Text × Json) := [(Text.ofString name, value)]

/-- A member that is present with its value only. -/
def member? {α : Type} (name : String) (value : Option α) (encode : α → Json) :
    List (Text × Json) :=
  match value with
  | some value => member name (encode value)
  | none => []

/-- A count or index as a value. -/
def natValue (n : Nat) : Json := .int n

/-- An object that holds a text under `text`. -/
def messageText (text : Text) : Json := .object (member "text" (.text text))

def Level.toText : Level → Text
  | .error => "error"
  | .warning => "warning"

def Region.toJson (region : Region) : Json :=
  .object (member? "startLine" region.startLine .int
    ++ member? "startColumn" region.startColumn .int
    ++ member? "endLine" region.endLine .int
    ++ member? "endColumn" region.endColumn .int
    ++ member? "snippet" region.snippet messageText)

def Location.toJson (location : Location) : Json :=
  .object (member "physicalLocation" (.object (
    member "artifactLocation" (.object (
      member "uri" (.text location.uri) ++ member "index" (natValue location.index)))
    ++ member? "region" location.region Region.toJson)))

def Fingerprints.toJson (prints : Fingerprints) : Json :=
  .object (member "messageHash/v1" (.text prints.message)
    ++ member "artifactUriHash/v1" (.text prints.artifactUri)
    ++ member? "ruleIdHash/v1" prints.ruleId .text)

/-- The members that results and notifications have in common. -/
def Finding.members (finding : Finding) : List (Text × Json) :=
  member "level" (.text finding.level.toText)
    ++ member "message" (messageText finding.text)
    ++ member "locations" (.array [finding.location.toJson])
    ++ member? "partialFingerprints" finding.fingerprints Fingerprints.toJson

/-- The descriptor of findings that belong to no rule. -/
def internalErrorId : Text := Text.ofString "ESL0999"

/-- A finding without a rule as a notification of the tool. -/
def Finding.toJson (finding : Finding) : Json :=
  .object (finding.members
    ++ member "descriptor" (.object (member "id" (.text internalErrorId))))

def SuppressionKind.toText : SuppressionKind → Text
  | .inSource => "inSource"
  | .external => "external"

def Suppression.toJson (suppression : Suppression) : Json :=
  .object (member "kind" (.text suppression.kind.toText)
    ++ member "justification" (.text suppression.justification))

def Result.toJson (result : Result) : Json :=
  .object (result.finding.members
    ++ member "ruleId" (.text result.ruleId)
    ++ member? "ruleIndex" result.ruleIndex natValue
    ++ member? "suppressions" result.suppressions fun suppressions =>
      .array (suppressions.map Suppression.toJson))

def Artifact.toJson (artifact : Artifact) : Json :=
  .object (member "location" (.object (member "uri" (.text artifact.uri))))

def RuleDescriptor.toJson (rule : RuleDescriptor) : Json :=
  .object (member "id" (.text rule.id)
    ++ member "name" (.text rule.name)
    ++ member? "helpUri" rule.helpUri .text
    ++ member "shortDescription" (messageText rule.description)
    ++ member "properties" (.object (member "category" (.text rule.category))))

/-- The name of a tool together with its version. -/
def Driver.fullName (driver : Driver) (version : Text) : Text :=
  driver.name ++ Text.ofString " v" ++ version

def Driver.toJson (driver : Driver) : Json :=
  .object (member "name" (.text driver.name)
    ++ member? "fullName" (driver.version.map driver.fullName) .text
    ++ member "informationUri" (.text driver.informationUri)
    ++ member? "version" driver.version .text
    ++ member "rules" (.array (driver.rules.map RuleDescriptor.toJson)))

/-- The identity of a run: the tool and its version. -/
def Driver.automationDetails (driver : Driver) (version : Text) : Json :=
  .object (member "id" (.text (driver.name ++ Text.ofString "/" ++ version)))

/-- The invocation of the tool, which is told of when there are notifications. -/
def Log.invocation (log : Log) : Json :=
  .object (
    member "toolConfigurationNotifications" (.array (log.notifications.map Finding.toJson))
    ++ member "executionSuccessful" (.bool log.executionSuccessful))

/-- A list that is left out when it is empty. -/
def listUnlessEmpty {α : Type} : List α → Option (List α)
  | [] => none
  | items => some items

/-- The one run of a log. -/
def Log.runToJson (log : Log) : Json :=
  .object (member "tool" (.object (member "driver" log.driver.toJson))
    ++ member? "automationDetails" log.driver.version log.driver.automationDetails
    ++ member? "artifacts" (listUnlessEmpty log.artifacts) (fun artifacts =>
      .array (artifacts.map Artifact.toJson))
    ++ member "results" (.array (log.results.map Result.toJson))
    ++ member? "invocations" (listUnlessEmpty log.notifications) fun _ =>
      .array [log.invocation])

/-- The version of the format. -/
def formatVersion : Text := Text.ofString "2.1.0"

/-- The schema of the format. -/
def formatSchema : Text := Text.ofString "https://json.schemastore.org/sarif-2.1.0.json"

/-- The JSON form of a log. -/
def Log.toJson (log : Log) : Json :=
  .object (member "version" (.text formatVersion)
    ++ member "$schema" (.text formatSchema)
    ++ member "runs" (.array [log.runToJson]))

/-- The text of a log. -/
def Log.render (log : Log) : Text := log.toJson.render

/-- Write a log, unless it holds an integer of too many digits. -/
def Log.write (log : Log) : Except Json.WriteError Text := log.toJson.write

end Findings.Sarif
