import Findings.Proofs.Sarif.Document
import Findings.Proofs.Sarif.Joined
import Findings.Proofs.Sarif.Members

/-!
Contract: a converted report is read back from its text.

Owns:
- `Log.IsJoined.isPlain`: the JSON form of a joined log is plain, part by part;
- `read_converted`: the text of a log that comes from a report text denotes that log, is printed,
  and mentions no unjoined surrogate pair, if the report text spells its pairs by escapes;
- `half_escaped_not_read_back`: that a report text holds no unjoined pair itself is not enough.
-/

set_option autoImplicit false

namespace Findings.Sarif

open Findings.Lint

/-! ## The parts of a log -/

theorem isPlain_messageText {text : Text} (joined : text.IsJoined) : (messageText text).IsPlain :=
  (arePlain_member (.text joined)).isPlain (by decide)

theorem isPlain_region {region : Region}
    (joined : ∀ snippet ∈ region.snippet, snippet.IsJoined) : region.toJson.IsPlain :=
  ((((arePlain_member? fun line _ => .int line).append
    (arePlain_member? fun column _ => .int column)).append
    (arePlain_member? fun line _ => .int line)).append
    (arePlain_member? fun column _ => .int column)).append
    (arePlain_member? fun snippet isSnippet => isPlain_messageText (joined snippet isSnippet))
    |>.isPlain (by decide)

theorem isPlain_fingerprints {prints : Fingerprints} (joined : prints.IsJoined) :
    prints.toJson.IsPlain :=
  ((arePlain_member (.text joined.message)).append
    (arePlain_member (.text joined.artifactUri))).append
    (arePlain_member? fun ruleId isRuleId => .text (joined.ruleId ruleId isRuleId))
    |>.isPlain (by decide)

theorem isPlain_location {location : Location} (uriJoined : location.uri.IsJoined)
    (regionJoined : ∀ region ∈ location.region, ∀ snippet ∈ region.snippet, snippet.IsJoined) :
    location.toJson.IsPlain := by
  have artifactLocation : (Json.object (member "uri" (.text location.uri)
      ++ member "index" (natValue location.index))).IsPlain :=
    ((arePlain_member (.text uriJoined)).append (arePlain_member (.int _))).isPlain (by decide)
  have physicalLocation : (Json.object (member "artifactLocation" (.object (
      member "uri" (.text location.uri) ++ member "index" (natValue location.index)))
      ++ member? "region" location.region Region.toJson)).IsPlain :=
    ((arePlain_member artifactLocation).append (arePlain_member? fun region isRegion =>
      isPlain_region (regionJoined region isRegion))).isPlain (by decide)
  exact (arePlain_member physicalLocation).isPlain (by decide)

/-- The names of what results and notifications have in common. -/
def findingNames : List String := ["level", "message", "locations", "partialFingerprints"]

theorem arePlain_finding {finding : Finding} (joined : finding.IsJoined) :
    ArePlain findingNames finding.members := by
  have level : finding.level.toText.IsJoined := by
    cases finding.level with
    | error => exact Text.isJoined_ofString _
    | warning => exact Text.isJoined_ofString _
  have location := isPlain_location joined.uri joined.snippet
  exact (((arePlain_member (.text level)).append
    (arePlain_member (isPlain_messageText joined.text))).append
    (arePlain_member (.array (List.forall_mem_singleton.2 location)))).append
    (arePlain_member? fun prints isPrints =>
      isPlain_fingerprints (joined.fingerprints prints isPrints))

theorem isPlain_notification {finding : Finding} (joined : finding.IsJoined) :
    finding.toJson.IsPlain := by
  have descriptor : (Json.object (member "id" (.text internalErrorId))).IsPlain :=
    (arePlain_member (.text (Text.isJoined_ofString _))).isPlain (by decide)
  exact ((arePlain_finding joined).append (arePlain_member descriptor)).isPlain (by decide)

theorem isPlain_suppression {suppression : Suppression}
    (joined : suppression.justification.IsJoined) : suppression.toJson.IsPlain := by
  have kind : suppression.kind.toText.IsJoined := by
    cases suppression.kind with
    | inSource => exact Text.isJoined_ofString _
    | external => exact Text.isJoined_ofString _
  exact ((arePlain_member (.text kind)).append (arePlain_member (.text joined))).isPlain (by decide)

theorem isPlain_result {result : Result} (joined : result.IsJoined) : result.toJson.IsPlain :=
  (((arePlain_finding joined.finding).append (arePlain_member (.text joined.ruleId))).append
    (arePlain_member? fun _ _ => .int _)).append
    (arePlain_member? fun suppressions isTold => isPlain_array fun suppression isSuppression =>
      isPlain_suppression (joined.suppressions suppressions isTold suppression isSuppression))
    |>.isPlain (by decide)

theorem isPlain_artifact {artifact : Artifact} (joined : artifact.uri.IsJoined) :
    artifact.toJson.IsPlain := by
  have location : (Json.object (member "uri" (.text artifact.uri))).IsPlain :=
    (arePlain_member (.text joined)).isPlain (by decide)
  exact (arePlain_member location).isPlain (by decide)

theorem isPlain_rule {rule : RuleDescriptor} (joined : rule.IsJoined) : rule.toJson.IsPlain := by
  have properties : (Json.object (member "category" (.text rule.category))).IsPlain :=
    (arePlain_member (.text joined.category)).isPlain (by decide)
  exact ((((arePlain_member (.text joined.id)).append (arePlain_member (.text joined.name))).append
    (arePlain_member? fun helpUri isHelpUri => .text (joined.helpUri helpUri isHelpUri))).append
    (arePlain_member (isPlain_messageText joined.description))).append
    (arePlain_member properties) |>.isPlain (by decide)

theorem isPlain_driver {driver : Driver} (joined : driver.IsJoined) : driver.toJson.IsPlain := by
  have fullName : ∀ fullName ∈ driver.version.map driver.fullName, fullName.IsJoined := by
    intro fullName isFullName
    obtain ⟨version, isVersion, equal⟩ := Option.map_eq_some_iff.1 isFullName
    rw [← equal]
    exact joined.name.append_append (joined.version version isVersion)
      (Text.isSurrogateFree_ofString " v") (by decide)
  exact ((((arePlain_member (.text joined.name)).append
    (arePlain_member? fun name isName => .text (fullName name isName))).append
    (arePlain_member (.text joined.informationUri))).append
    (arePlain_member? fun version isVersion => .text (joined.version version isVersion))).append
    (arePlain_member (isPlain_array fun rule isRule => isPlain_rule (joined.rules rule isRule)))
    |>.isPlain (by decide)

theorem isPlain_automationDetails {driver : Driver} (joined : driver.IsJoined) :
    ∀ version ∈ driver.version, (driver.automationDetails version).IsPlain := by
  intro version isVersion
  have id : (driver.name ++ Text.ofString "/" ++ version).IsJoined :=
    joined.name.append_append (joined.version version isVersion)
      (Text.isSurrogateFree_ofString "/") (by decide)
  exact (arePlain_member (.text id)).isPlain (by decide)

theorem isPlain_invocation {log : Log} (joined : log.IsJoined) : log.invocation.IsPlain := by
  have notifications := isPlain_array fun notification isNotification =>
    isPlain_notification (joined.notifications notification isNotification)
  exact ((arePlain_member notifications).append (arePlain_member (.bool _))).isPlain (by decide)

theorem eq_of_mem_listUnlessEmpty {α : Type} {items shown : List α}
    (isShown : shown ∈ listUnlessEmpty items) : shown = items := by
  cases items with
  | nil => cases isShown
  | cons first items =>
      cases isShown
      rfl

theorem listUnlessEmpty_of_mem {α : Type} {items : List α} {item : α} (listed : item ∈ items) :
    listUnlessEmpty items = some items := by
  cases items with
  | nil => cases listed
  | cons first items => rfl

theorem isPlain_run {log : Log} (joined : log.IsJoined) : log.runToJson.IsPlain := by
  have tool : (Json.object (member "driver" log.driver.toJson)).IsPlain :=
    (arePlain_member (isPlain_driver joined.driver)).isPlain (by decide)
  have artifacts : ∀ artifacts ∈ listUnlessEmpty log.artifacts,
      (Json.array (artifacts.map Artifact.toJson)).IsPlain := by
    intro artifacts isShown
    rw [eq_of_mem_listUnlessEmpty isShown]
    exact isPlain_array fun artifact isArtifact =>
      isPlain_artifact (joined.artifacts artifact isArtifact)
  have results := isPlain_array fun result isResult =>
    isPlain_result (joined.results result isResult)
  have invocations : (Json.array [log.invocation]).IsPlain :=
    .array (List.forall_mem_singleton.2 (isPlain_invocation joined))
  exact ((((arePlain_member tool).append
    (arePlain_member? (isPlain_automationDetails joined.driver))).append
    (arePlain_member? artifacts)).append
    (arePlain_member results)).append
    (arePlain_member? fun _ _ => invocations) |>.isPlain (by decide)

/-- **The JSON form of a joined log is plain.** -/
theorem Log.IsJoined.isPlain {log : Log} (joined : log.IsJoined) : log.toJson.IsPlain := by
  have runs : (Json.array [log.runToJson]).IsPlain :=
    .array (List.forall_mem_singleton.2 (isPlain_run joined))
  exact ((arePlain_member (.text (Text.isJoined_ofString _))).append
    (arePlain_member (.text (Text.isJoined_ofString _)))).append (arePlain_member runs)
    |>.isPlain (by decide)

/-! ## Conversion and back -/

/-- **A converted report is read back.**  If a report is read from a text that spells no unjoined
surrogate pair, and its log can be built and written, then the written text denotes the log member
by member, consists of line feeds and the printable characters of ASCII, and stands for a value that
mentions no unjoined surrogate pair. -/
theorem read_converted {options : Options} (optionsJoined : options.IsJoined) {source : Text}
    (spelled : Json.SpellsJoined source) {report : Report}
    (parsed : readReport source = .ok report) {log : Log}
    (built : Log.ofReport options report = .ok log) {text : Text}
    (written : log.write = .ok text) :
    Json.read text = .ok log.toJson ∧ text.IsPrinted ∧ log.toJson.IsJoined := by
  have joined := isJoined_ofReport optionsJoined (readReport_isJoined spelled parsed) built
  have plain := joined.isPlain
  have isText : log.toJson.render = text := (Json.write_eq_ok_iff.1 written).2
  exact ⟨Json.read_of_write plain written, isText ▸ Json.isPrinted_render _, plain.isJoined⟩

/-- A report of one message, whose text is half of a surrogate pair. -/
def sampleSource : Text :=
  "[\x7b\"filePath\": \"a.js\", \"messages\": [\x7b\"message\": \"\\ud83d\", \"line\": 3\x7d]\x7d]"

/-- What the small report says. -/
def sampleReport : Report where
  results := [{
    path := "a.js"
    messages := [{ text := [⟨0xD83D, by decide⟩], line := some 3 }] }]

/-- The log of the small report. -/
def sampleLog : Log where
  driver := { name := "ESLint", informationUri := "https://eslint.org" }
  artifacts := [⟨"a.js"⟩]
  notifications := [{
    level := .warning
    text := [⟨0xD83D, by decide⟩]
    location := { uri := "a.js", index := 0, region := some { startLine := some 3 } } }]

theorem isJoined_sampleOptions : sampleOptions.IsJoined where
  toolName := Text.isJoined_ofString _
  toolVersion := fun version isVersion => by cases isVersion
  informationUri := Text.isJoined_ofString _

theorem read_converted_sample :
    readReport sampleSource = .ok sampleReport ∧
      Log.ofReport sampleOptions sampleReport = .ok sampleLog ∧
      sampleLog.write = .ok sampleLog.render ∧
      Json.read sampleLog.render = .ok sampleLog.toJson ∧ sampleLog.render.IsPrinted ∧
      sampleLog.toJson.IsJoined := by
  have parsed : readReport sampleSource = .ok sampleReport :=
    eq_ok_of_toOption (by decide +kernel)
  have built : Log.ofReport sampleOptions sampleReport = .ok sampleLog :=
    eq_ok_of_toOption (by decide +kernel)
  have written : sampleLog.write = .ok sampleLog.render :=
    Json.write_eq_ok_iff.2 ⟨by decide +kernel, rfl⟩
  have spelled : Json.SpellsJoined sampleSource :=
    .of_isSurrogateFree (Text.isSurrogateFree_ofString _)
  exact ⟨parsed, built, written,
    read_converted isJoined_sampleOptions spelled parsed built written⟩

/-! ## A pair of which one half is escaped -/

/-- Only a joined value is read back from its text, which spells every pair by escapes. -/
theorem isJoined_of_read_render {value : Json} (readBack : Json.read value.render = .ok value) :
    value.IsJoined :=
  Json.read_isJoined (.of_isSurrogateFree (Json.isPrinted_render value).isSurrogateFree) readBack

theorem mem_member (name : String) (value : Json) :
    (Text.ofString name, value) ∈ member name value :=
  List.mem_singleton_self _

/-- The JSON form of a log mentions the locations of its artifacts. -/
theorem mentions_uri_of_mem_artifacts {log : Log} {artifact : Artifact}
    (listed : artifact ∈ log.artifacts) : log.toJson.Mentions artifact.uri := by
  have inArtifact : artifact.toJson.Mentions artifact.uri :=
    .value (mem_member "location" _) (.value (mem_member "uri" _) (.text _))
  have inRun : log.runToJson.Mentions artifact.uri := by
    unfold Log.runToJson
    rw [listUnlessEmpty_of_mem listed]
    have isMember := mem_member "artifacts" (.array (log.artifacts.map Artifact.toJson))
    exact .value (List.mem_append_left _ (List.mem_append_left _ (List.mem_append_right _ isMember)))
      (.item (List.mem_map_of_mem listed) inArtifact)
  exact .value (List.mem_append_right _ (mem_member "runs" _))
    (.item (List.mem_singleton_self _) inRun)

/-- A high surrogate directly in front of a low one. -/
def unjoinedPair : Text := [⟨0xD83D, by decide⟩, ⟨0xDE00, by decide⟩]

/-- A report on two files.  In the path of the first one the high surrogate stands as it is, and the
low one is escaped; in that of the second one both are. -/
def halfEscapedSource : Text :=
  Text.ofString "[\x7b\"filePath\": \"" ++ ⟨0xD83D, by decide⟩ :: Text.ofString
    "\\ude00\", \"messages\": [\x7b\"message\": \"m\"\x7d]\x7d, \x7b\"filePath\": \"\\ud83d\\ude00\", \"messages\": [\x7b\"message\": \"m\"\x7d]\x7d]"

/-- What this report says: its files are different. -/
def halfEscapedReport : Report where
  results := [
    { path := unjoinedPair, messages := [{ text := "m" }] },
    { path := "😀", messages := [{ text := "m" }] }]

/-- The log of this report. -/
def halfEscapedLog : Log where
  driver := { name := "ESLint", informationUri := "https://eslint.org" }
  artifacts := [⟨unjoinedPair⟩, ⟨"😀"⟩]
  notifications := [
    { level := .warning, text := "m", location := { uri := unjoinedPair, index := 0 } },
    { level := .warning, text := "m", location := { uri := "😀", index := 1 } }]

/-- That a source text holds no unjoined pair is not enough to read its log back.  Half a pair that
stands as it is in front of the escape of the other half is read as an unjoined pair, which the log
takes over, and the text of the log denotes the joined one. -/
theorem half_escaped_not_read_back :
    sampleOptions.IsJoined ∧ halfEscapedSource.IsJoined ∧
      readReport halfEscapedSource = .ok halfEscapedReport ∧
      Log.ofReport sampleOptions halfEscapedReport = .ok halfEscapedLog ∧
      halfEscapedLog.write = .ok halfEscapedLog.render ∧
      ¬ halfEscapedLog.toJson.IsJoined ∧
      Json.read halfEscapedLog.render ≠ .ok halfEscapedLog.toJson := by
  have sourceJoined : halfEscapedSource.IsJoined :=
    (Text.isSurrogateFree_ofString _).append_isJoined
      (Text.isJoined_cons_iff.2 ⟨by decide, Text.isJoined_ofString _⟩)
  have parsed : readReport halfEscapedSource = .ok halfEscapedReport :=
    eq_ok_of_toOption (by decide +kernel)
  have built : Log.ofReport sampleOptions halfEscapedReport = .ok halfEscapedLog :=
    eq_ok_of_toOption (by decide +kernel)
  have written : halfEscapedLog.write = .ok halfEscapedLog.render :=
    Json.write_eq_ok_iff.2 ⟨by decide +kernel, rfl⟩
  have unjoined : ¬ halfEscapedLog.toJson.IsJoined := by
    intro joined
    have pairJoined := joined unjoinedPair (mentions_uri_of_mem_artifacts List.mem_cons_self)
    exact absurd pairJoined (by decide)
  exact ⟨isJoined_sampleOptions, sourceJoined, parsed, built, written, unjoined,
    fun readBack => unjoined (isJoined_of_read_render readBack)⟩

end Findings.Sarif
