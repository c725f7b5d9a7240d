import Findings.Proofs.Entries
import Findings.Proofs.Sarif.Artifacts
import Findings.Summary.View

/-!
Contract: the summary of a log that the program made.

Owns:
- `View.ofLog`, what a summary tells about a log, taken from the log itself;
- reading the JSON form of a log gives this view (`ofJson_toJson`), so a summary looks for nothing
  in vain.

Does not own: summaries of documents that come from elsewhere.
-/

set_option autoImplicit false

namespace Findings

/-- What an entry says in any case. -/
def Sarif.Entry.finding : Sarif.Entry → Sarif.Finding
  | .result reported => reported.finding
  | .notification finding => finding

/-- All entries of a log, notifications first. -/
def Sarif.Log.entries (log : Sarif.Log) : List Sarif.Entry :=
  log.notifications.map .notification ++ log.results.map .result

namespace Summary

/-! ## The view of a log -/

/-- The position of a region; empty when the line is not known. -/
def positionText (region : Option Sarif.Region) : Text :=
  match region.bind (·.startLine) with
  | none => []
  | some line =>
      match region.bind (·.startColumn) with
      | none => Text.ofInt line
      | some column => Text.ofInt line ++ Text.ofString ":" ++ Text.ofInt column

/-- What an entry is labelled with: its rule, or the descriptor of all notifications. -/
def labelText : Sarif.Entry → Text
  | .result reported =>
      if reported.ruleId = [] then Text.ofString "?" else reported.ruleId
  | .notification _ => Sarif.internalErrorId

/-- Whether an entry has suppressions. -/
def hasSuppressions : Sarif.Entry → Bool
  | .result reported => !(reported.suppressions.getD []).isEmpty
  | .notification _ => false

/-- The finding that a summary shows of an entry. -/
def Entry.ofEntry (entry : Sarif.Entry) : Entry where
  icon := iconOf (.text entry.finding.level.toText)
  label := labelText entry
  position := positionText entry.finding.location.region
  text := entry.finding.text
  suppressed := hasSuppressions entry

/-- Entries by file, files in order of their locations. -/
def groupsOf (entries : List Sarif.Entry) : List Group :=
  (groupSorted (entries.map fun entry => (entry.finding.location.uri, entry))).map fun group =>
    { uri := group.1, entries := group.2.map Entry.ofEntry }

/-- What a summary tells about a log. -/
def View.ofLog (details : Bool) (log : Sarif.Log) : View where
  toolName := (log.driver.version.map log.driver.fullName).getD log.driver.name
  artifacts := log.artifacts.length
  groups := if details then groupsOf log.entries else []
  results := log.results.length
  suppressed := log.results.countP fun result => hasSuppressions (.result result)
  rules := log.driver.rules.length
  notifications := log.notifications.length
  successful := log.executionSuccessful

/-! ## Members -/

theorem memberD_object (name : String) (members : List (Text × Json)) (default : Json) :
    (Json.object members).memberD name default =
      .ok ((Entries.find? (Text.ofString name) members).getD default) := rfl

theorem member_object {name : String} {members : List (Text × Json)} {value : Json}
    (found : Entries.find? (Text.ofString name) members = some value) :
    (Json.object members).member name = .ok value := by
  simp only [Json.member, found]

/-! ## One entry -/

/-- The physical location of an entry is where a reader of the format looks for it. -/
theorem physicalLocation_toJson (entry : Sarif.Entry) :
    physicalLocation entry.toJson = .ok (.object (
      Sarif.member "artifactLocation" (.object (
        Sarif.member "uri" (.text entry.finding.location.uri)
          ++ Sarif.member "index" (Sarif.natValue entry.finding.location.index)))
      ++ Sarif.member? "region" entry.finding.location.region Sarif.Region.toJson)) := by
  cases entry <;>
    simp [physicalLocation, Sarif.Entry.toJson, Sarif.Entry.finding, Sarif.Result.toJson,
      Sarif.Finding.toJson, Sarif.Finding.members, Sarif.Location.toJson, Json.member,
      Json.firstItem, Entries.find?_append]

theorem uriOf_toJson (entry : Sarif.Entry) :
    uriOf entry.toJson = .ok (.text entry.finding.location.uri) := by
  unfold uriOf
  rw [physicalLocation_toJson]
  simp [Json.member, Json.checkKey, Entries.find?_append, pure, Except.pure]

theorem positionOf_toJson (entry : Sarif.Entry) :
    positionOf entry.toJson = .ok (positionText entry.finding.location.region) := by
  unfold positionOf positionText
  rw [physicalLocation_toJson]
  cases entry.finding.location.region with
  | none => rfl
  | some region =>
      cases line : region.startLine with
      | none =>
          simp [memberD_object, hasName, Entries.find?_append, Sarif.Region.toJson, line, pure,
            Except.pure]
      | some line' =>
          cases column : region.startColumn with
          | none =>
              simp [memberD_object, hasName, Entries.find?_append, Sarif.Region.toJson, line,
                column, Json.member, Json.spelling, Json.spelledInside, pure, Except.pure]
          | some column' =>
              simp [memberD_object, hasName, Entries.find?_append, Sarif.Region.toJson, line,
                column, Json.member, Json.spelling, Json.spelledInside, pure, Except.pure]

theorem labelOf_toJson (entry : Sarif.Entry) :
    labelOf entry.toJson = .ok (.text (labelText entry)) := by
  unfold labelOf
  cases entry with
  | result reported =>
      by_cases empty : reported.ruleId = []
      · simp [Sarif.Entry.toJson, Sarif.Result.toJson, Sarif.Finding.members, memberD_object,
          Entries.find?_append, Entries.find?, Json.isTruthy, labelText, empty]
      · simp [Sarif.Entry.toJson, Sarif.Result.toJson, Sarif.Finding.members, memberD_object,
          Entries.find?_append, Entries.find?, Json.isTruthy, labelText, empty, pure, Except.pure]
  | notification finding =>
      simp [Sarif.Entry.toJson, Sarif.Finding.toJson, Sarif.Finding.members, memberD_object,
        Entries.find?_append, Json.isTruthy, labelText]

theorem memberD_level (entry : Sarif.Entry) (default : Json) :
    entry.toJson.memberD "level" default = .ok (.text entry.finding.level.toText) := by
  cases entry <;>
    simp [Sarif.Entry.toJson, Sarif.Result.toJson, Sarif.Finding.toJson, Sarif.Finding.members,
      memberD_object, Entries.find?_append, Sarif.Entry.finding]

theorem member_message (entry : Sarif.Entry) :
    entry.toJson.member "message" = .ok (Sarif.messageText entry.finding.text) := by
  cases entry <;>
    simp [Sarif.Entry.toJson, Sarif.Result.toJson, Sarif.Finding.toJson, Sarif.Finding.members,
      Json.member, Entries.find?_append, Sarif.Entry.finding]

theorem memberD_suppressions (entry : Sarif.Entry) :
    ∃ suppressions, entry.toJson.memberD "suppressions" .null = .ok suppressions ∧
      suppressions.isTruthy = hasSuppressions entry := by
  cases entry with
  | result reported =>
      cases given : reported.suppressions with
      | none =>
          simp [Sarif.Entry.toJson, Sarif.Result.toJson, Sarif.Finding.members, memberD_object,
            Entries.find?_append, given, hasSuppressions, Json.isTruthy]
      | some suppressions =>
          simp [Sarif.Entry.toJson, Sarif.Result.toJson, Sarif.Finding.members, memberD_object,
            Entries.find?_append, given, hasSuppressions, Json.isTruthy]
  | notification finding =>
      simp [Sarif.Entry.toJson, Sarif.Finding.toJson, Sarif.Finding.members, memberD_object,
        Entries.find?_append, hasSuppressions, Json.isTruthy]

theorem readEntry_toJson (entry : Sarif.Entry) :
    readEntry entry.toJson = .ok (Entry.ofEntry entry) := by
  obtain ⟨suppressions, isMember, truth⟩ := memberD_suppressions entry
  unfold readEntry
  rw [memberD_level, labelOf_toJson]
  simp only [ok_bind, Json.checkKey]
  rw [positionOf_toJson, member_message, isMember]
  simp [Sarif.messageText, Json.member, Json.spelling, Entry.ofEntry, truth, pure, Except.pure]

/-! ## Groups -/

section Groups

variable {α β : Type}

theorem addToGroup_mapValues (f : α → β) (groups : Entries (List α)) (item : Text × α) :
    addToGroup (Entries.mapValues (List.map f) groups) (item.1, f item.2) =
      Entries.mapValues (List.map f) (addToGroup groups item) := by
  unfold addToGroup
  rw [← Entries.insert_mapValues, Entries.find?_mapValues]
  congr 1
  cases Entries.find? item.1 groups <;> simp

/-- Grouping looks at the keys only. -/
theorem groupSorted_map (f : α → β) (items : List (Text × α)) :
    groupSorted (items.map fun item => (item.1, f item.2)) =
      Entries.mapValues (List.map f) (groupSorted items) := by
  have grouped : ∀ groups : Entries (List α),
      (items.map fun item => (item.1, f item.2)).foldl addToGroup
          (Entries.mapValues (List.map f) groups) =
        Entries.mapValues (List.map f) (items.foldl addToGroup groups) := by
    induction items with
    | nil => exact fun _ => rfl
    | cons item items inductionHypothesis =>
        intro groups
        rw [List.map_cons, List.foldl_cons, List.foldl_cons, addToGroup_mapValues,
          inductionHypothesis]
  have fromNothing := grouped []
  unfold groupSorted
  rw [show Entries.mapValues (List.map f) [] = [] from rfl] at fromNothing
  rw [fromNothing]
  unfold Entries.mapValues
  rw [List.map_mergeSort]
  exact fun _ _ _ _ => rfl

end Groups

theorem readGroups_toJson (entries : List Sarif.Entry) :
    readGroups (entries.map Sarif.Entry.toJson) = .ok (groupsOf entries) := by
  have located : (entries.map Sarif.Entry.toJson).mapM
        (fun entry => do return (← uriOf entry, entry)) =
      .ok (entries.map fun entry =>
        ((.text entry.finding.location.uri, entry.toJson) : Json × Json)) := by
    rw [List.mapM_map]
    apply mapM_eq_ok_map
    intro entry _
    rw [Function.comp_apply, uriOf_toJson]
    rfl
  have areTexts : textUris (entries.map fun entry =>
        ((.text entry.finding.location.uri, entry.toJson) : Json × Json)) =
      .ok (entries.map fun entry => (entry.finding.location.uri, entry.toJson)) := by
    unfold textUris
    simp [List.filterMap_map, Function.comp_def, Json.text?]
  have grouped := groupSorted_map Sarif.Entry.toJson
    (entries.map fun entry => (entry.finding.location.uri, entry))
  rw [List.map_map] at grouped
  unfold readGroups groupsOf
  rw [located, ok_bind, areTexts, ok_bind]
  rw [show (entries.map fun entry => (entry.finding.location.uri, entry.toJson)) =
    entries.map ((fun item : Text × Sarif.Entry => (item.1, item.2.toJson)) ∘
      fun entry => (entry.finding.location.uri, entry)) from rfl, grouped]
  unfold Entries.mapValues
  rw [List.mapM_map]
  apply mapM_eq_ok_map
  intro group _
  have read : (group.2.map Sarif.Entry.toJson).mapM readEntry = .ok (group.2.map Entry.ofEntry) := by
    rw [List.mapM_map]
    exact mapM_eq_ok_map fun entry _ => readEntry_toJson entry
  rw [Function.comp_apply, read]
  rfl

/-! ## The whole log -/

section Log

variable (log : Sarif.Log)

theorem member_runs : log.toJson.member "runs" = .ok (.array [log.runToJson]) :=
  member_object (by simp [Entries.find?_append])

theorem member_tool :
    log.runToJson.member "tool" = .ok (.object (Sarif.member "driver" log.driver.toJson)) :=
  member_object (by simp [Entries.find?_append])

theorem member_driver (driver : Json) :
    (Json.object (Sarif.member "driver" driver)).member "driver" = .ok driver :=
  member_object (by simp)

theorem memberD_artifacts :
    log.runToJson.memberD "artifacts" (.array []) =
      .ok (.array (log.artifacts.map Sarif.Artifact.toJson)) := by
  unfold Sarif.Log.runToJson
  cases log.artifacts <;>
    simp [memberD_object, Entries.find?_append, Sarif.listUnlessEmpty]

theorem memberD_results :
    log.runToJson.memberD "results" (.array []) =
      .ok (.array (log.results.map Sarif.Result.toJson)) := by
  unfold Sarif.Log.runToJson
  simp [memberD_object, Entries.find?_append]

/-- The invocations in a document: one if there are notifications. -/
def invocationsOf : List Json := if log.notifications = [] then [] else [log.invocation]

theorem memberD_invocations :
    log.runToJson.memberD "invocations" (.array []) = .ok (.array (invocationsOf log)) := by
  unfold Sarif.Log.runToJson invocationsOf
  cases log.notifications <;>
    simp [memberD_object, Entries.find?_append, Sarif.listUnlessEmpty]

theorem notificationsOf_invocationsOf :
    notificationsOf (invocationsOf log) =
      .ok (log.notifications.map Sarif.Finding.toJson) := by
  unfold notificationsOf invocationsOf
  cases shown : log.notifications with
  | nil => rfl
  | cons first rest =>
      simp [Sarif.Log.invocation, memberD_object, Entries.find?_append, Json.iterate, Json.parts?,
        shown, pure, Except.pure]

theorem successfulOf_invocationsOf :
    successfulOf (invocationsOf log) = .ok log.executionSuccessful := by
  unfold successfulOf invocationsOf
  cases shown : log.notifications with
  | nil => simp [Sarif.Log.executionSuccessful, shown, pure, Except.pure]
  | cons first rest =>
      simp [Sarif.Log.invocation, memberD_object, Entries.find?_append, Json.isTruthy, pure,
        Except.pure]

theorem toolNameOf_toJson (driver : Sarif.Driver) :
    toolNameOf driver.toJson = .ok ((driver.version.map driver.fullName).getD driver.name) := by
  have discarded : ∀ value : Json,
      (discard (.ok value) : Except Json.AccessFault PUnit) = .ok ⟨⟩ := fun _ => rfl
  unfold toolNameOf Sarif.Driver.toJson
  cases driver.version <;>
    simp [memberD_object, Json.member, Entries.find?_append, Json.spelling, pure, Except.pure,
      discarded]

theorem memberD_rules :
    log.driver.toJson.memberD "rules" (.array []) =
      .ok (.array (log.driver.rules.map Sarif.RuleDescriptor.toJson)) := by
  unfold Sarif.Driver.toJson
  simp [memberD_object, Entries.find?_append]

theorem detailsOf_toJson :
    detailsOf (log.notifications.map Sarif.Finding.toJson)
        (.array (log.results.map Sarif.Result.toJson)) =
      .ok (groupsOf log.entries) := by
  rw [← readGroups_toJson]
  unfold detailsOf Sarif.Log.entries
  simp [Json.parts?, Function.comp_def, Sarif.Entry.toJson]

theorem isSuppressed_toJson (result : Sarif.Result) :
    isSuppressed result.toJson = .ok (hasSuppressions (.result result)) := by
  obtain ⟨suppressions, isMember, truth⟩ := memberD_suppressions (.result result)
  unfold isSuppressed
  rw [show result.toJson = (Sarif.Entry.result result).toJson from rfl, isMember, ok_bind, truth]
  rfl

/-- **The summary of a log**: reading its JSON form gives its view, so that no part that a summary
looks for is missing or of another kind. -/
theorem ofJson_toJson (details : Bool) :
    View.ofJson details log.toJson = .ok (View.ofLog details log) := by
  have suppressed : (log.results.map Sarif.Result.toJson).mapM isSuppressed =
      .ok (log.results.map fun result => hasSuppressions (.result result)) := by
    rw [List.mapM_map]
    exact mapM_eq_ok_map fun result _ => isSuppressed_toJson result
  have counted : (log.results.map fun result => hasSuppressions (.result result)).count true =
      log.results.countP fun result => hasSuppressions (.result result) := by
    rw [List.count_eq_countP, List.countP_map]
    simp [Function.comp_def]
  unfold View.ofJson
  rw [member_runs, ok_bind]
  simp only [Json.firstItem, ok_bind, member_tool, member_driver, memberD_artifacts, memberD_results,
    memberD_invocations, Json.iterate, Json.size, Json.parts?, notificationsOf_invocationsOf,
    successfulOf_invocationsOf, toolNameOf_toJson, memberD_rules, suppressed, counted,
    List.length_map]
  cases details with
  | true =>
      rw [if_pos rfl, detailsOf_toJson]
      rfl
  | false => rfl

end Log

end Summary

end Findings
