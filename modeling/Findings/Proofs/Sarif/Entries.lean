import Findings.Proofs.Sarif.Document
import Findings.Proofs.Sarif.Run

/-!
Contract: the entries of a document are the messages that were taken in.

Owns:
- `ShowsResult` and `ShowsNotification`, what an entry of a document has to say about a message, in
  terms of the document and the message alone;
- `entries_show_emissions`: results and notifications show the messages with and without a rule id,
  each in the order in which they were taken in, and nothing else.

Does not own: places in the tables (`Findings.Proofs.Sarif.Artifacts` and
`Findings.Proofs.Sarif.Rules`).
-/

set_option autoImplicit false

namespace Findings.Sarif

open Findings.Lint

/-! ## What an entry has to say -/

namespace Emission

/-- The message has a line or a column. -/
def IsAnchored (emission : Emission) : Prop :=
  emission.message.line.isSome ∨ emission.message.column.isSome

instance (emission : Emission) : Decidable emission.IsAnchored := by
  unfold IsAnchored
  infer_instance

/-- The message has a source text that is not empty. -/
def HasSource (emission : Emission) : Prop :=
  ∃ source, emission.message.source = some source ∧ source ≠ []

/-- What the region of a message holds under a name.  An end counts only if there is a line or a
column. -/
def regionMember? (emission : Emission) (name : Text) : Option Json :=
  if name = Text.ofString "startLine" then emission.message.line.map Json.int
  else if name = Text.ofString "startColumn" then emission.message.column.map Json.int
  else if name = Text.ofString "endLine" then
    if emission.IsAnchored then emission.message.endLine.map Json.int else none
  else if name = Text.ofString "endColumn" then
    if emission.IsAnchored then emission.message.endColumn.map Json.int else none
  else if name = Text.ofString "snippet" then
    match emission.message.source with
    | none | some [] => none
    | some source => some (.object [("text", .text source)])
  else none

end Emission

/-- A record of a suppression in a document. -/
def suppressionRecord (suppression : Lint.Suppression) : Json :=
  .object [
    ("kind",
      .text (if suppression.kind = Text.ofString "directive" then "inSource" else "external")),
    ("justification", .text (suppression.justification.getD []))]

/-- An entry shows a message: its level, its text, the location of its file, and a region with just
what is known of its position and source. -/
structure ShowsMessage (options : Options) (emission : Emission) (entry : Json) : Prop where
  level : entry.member? "level" = some (.text (
    if emission.message.fatal = true ∨ emission.message.severity = 2 then "error" else "warning"))
  text : (entry.member? "message").bind (Json.member? "text") = some (.text emission.message.text)
  uri : shownUri? entry = some (.text (relativeUri emission.file.path options.baseFolder))
  region_isSome : ((placeOf? entry).bind (Json.member? "region")).isSome ↔
    emission.IsAnchored ∨ emission.HasSource
  region_members : ∀ region, (placeOf? entry).bind (Json.member? "region") = some region →
    ∀ name, region.member? name = emission.regionMember? name

/-- A result shows a message with a rule id.  It tells the suppressions of the message if the
suppressed messages of the file were taken in, and nothing of suppressions otherwise. -/
structure ShowsResult (options : Options) (emission : Emission) (entry : Json) : Prop
    extends ShowsMessage options emission entry where
  ruleId : ∃ ruleId, emission.message.ruleId = some ruleId ∧ ruleId ≠ [] ∧
    entry.member? "ruleId" = some (.text ruleId)
  suppressions : entry.member? "suppressions" =
    if emission.IsMerged options then
      some (.array ((emission.message.suppressions.getD []).map suppressionRecord))
    else none

/-- A notification shows a message without a rule id. -/
structure ShowsNotification (options : Options) (emission : Emission) (entry : Json) : Prop
    extends ShowsMessage options emission entry where
  unruled : ¬ emission.IsRuled
  ruleId : entry.member? "ruleId" = none
  suppressions : entry.member? "suppressions" = none

theorem ShowsResult.isRuled {options : Options} {emission : Emission} {entry : Json}
    (shows : ShowsResult options emission entry) : emission.IsRuled := by
  obtain ⟨ruleId, named, nonempty, _⟩ := shows.ruleId
  exact ⟨ruleId, named, nonempty⟩

/-! ## The document of an entry -/

theorem snippetOf_isSome_iff (emission : Emission) :
    (snippetOf emission.message).isSome ↔ emission.HasSource := by
  unfold snippetOf Emission.HasSource
  cases emission.message.source with
  | none => simp
  | some source => cases source <;> simp [Option.filter]

theorem regionOf_isSome_iff (emission : Emission) :
    (regionOf emission.message).isSome ↔ emission.IsAnchored ∨ emission.HasSource := by
  rw [← snippetOf_isSome_iff]
  unfold regionOf Emission.IsAnchored
  split
  · rename_i anchored
    simp [anchored]
  · rename_i adrift
    simp [adrift]

/-- The region of a message has its ends only if the message is anchored. -/
theorem regionOf_eq_some {emission : Emission} {region : Region}
    (shown : regionOf emission.message = some region) :
    region = {
      startLine := emission.message.line
      startColumn := emission.message.column
      endLine := if emission.IsAnchored then emission.message.endLine else none
      endColumn := if emission.IsAnchored then emission.message.endColumn else none
      snippet := snippetOf emission.message } := by
  unfold regionOf at shown
  split at shown
  · rename_i known
    have anchored : emission.IsAnchored := known
    cases shown
    rw [if_pos anchored, if_pos anchored]
  · rename_i unknown
    have adrift : ¬ emission.IsAnchored := unknown
    obtain ⟨snippet, isSnippet, equal⟩ := Option.map_eq_some_iff.1 shown
    obtain ⟨noLine, noColumn⟩ := not_or.1 unknown
    rw [Option.not_isSome_iff_eq_none] at noLine noColumn
    rw [← equal, noLine, noColumn, isSnippet, if_neg adrift, if_neg adrift]

theorem snippetOf_document (emission : Emission) :
    (snippetOf emission.message).map messageText =
      emission.regionMember? (Text.ofString "snippet") := by
  unfold snippetOf
  cases source : emission.message.source with
  | none => simp [Emission.regionMember?, source]
  | some text =>
      cases text with
      | nil => simp [Emission.regionMember?, source, Option.filter]
      | cons first rest =>
          simp [Emission.regionMember?, source, Option.filter, messageText, member]

/-- A region holds what is known of the position and the source, and nothing else. -/
theorem regionOf_members {emission : Emission} {region : Region}
    (shown : regionOf emission.message = some region) (name : Text) :
    region.toJson.member? name = emission.regionMember? name := by
  rw [regionOf_eq_some shown]
  simp only [Region.toJson, member?_object, Entries.find?_append, find?_member?,
    snippetOf_document]
  by_cases isStartLine : name = Text.ofString "startLine"
  · simp [isStartLine, Emission.regionMember?]
  by_cases isStartColumn : name = Text.ofString "startColumn"
  · simp [isStartColumn, Emission.regionMember?]
  by_cases isEndLine : name = Text.ofString "endLine"
  · by_cases anchored : emission.IsAnchored <;> simp [isEndLine, Emission.regionMember?, anchored]
  by_cases isEndColumn : name = Text.ofString "endColumn"
  · by_cases anchored : emission.IsAnchored <;> simp [isEndColumn, Emission.regionMember?, anchored]
  by_cases isSnippet : name = Text.ofString "snippet"
  · simp [isSnippet]
  · simp [Emission.regionMember?, isStartLine, isStartColumn, isEndLine, isEndColumn, isSnippet,
      eq_comm (b := name)]

theorem levelOf_toText (message : Message) :
    (levelOf message).toText =
      if message.fatal = true ∨ message.severity = 2 then Text.ofString "error"
      else Text.ofString "warning" := by
  unfold levelOf errorSeverity
  split <;> rfl

theorem suppressionOf_toJson (suppression : Lint.Suppression) :
    (suppressionOf suppression).toJson = suppressionRecord suppression := by
  by_cases isDirective : suppression.kind = Text.ofString "directive" <;>
    simp [Suppression.toJson, suppressionOf, suppressionRecord, directiveKind, isDirective,
      SuppressionKind.toText, member]

/-- What results and notifications have in common shows the message. -/
theorem findingOf_shows (options : Options) (emission : Emission) (index : Nat)
    (prints : Option Fingerprints) (more : List (Text × Json)) :
    ShowsMessage options emission
      (.object ((findingOf (emission.uri options) index prints emission.message).members
        ++ more)) where
  level := by
    simp [Finding.members, Entries.find?_append, findingOf, levelOf_toText]
  text := by
    simp [Finding.members, Entries.find?_append, findingOf, messageText]
  uri := by
    simp [shownUri?, Entries.find?_append, findingOf, Emission.uri]
  region_isSome := by
    simp [Entries.find?_append, findingOf, regionOf_isSome_iff]
  region_members := by
    intro region shown name
    rw [placeOf?_members] at shown
    simp only [Option.bind_some, member?_object, Entries.find?_append, find?_member, find?_member?,
      Text.ofString_inj, findingOf] at shown
    obtain ⟨known, isKnown, equal⟩ := Option.map_eq_some_iff.1 (by simpa using shown)
    rw [← equal]
    exact regionOf_members isKnown name

theorem notification_shows {options : Options} {emission : Emission}
    (unruled : ¬ emission.IsRuled) (index : Nat) (prints : Option Fingerprints) :
    ShowsNotification options emission
      (findingOf (emission.uri options) index prints emission.message).toJson where
  toShowsMessage := findingOf_shows options emission index prints _
  unruled := unruled
  ruleId := by
    simp [Finding.toJson, Finding.members, Entries.find?_append]
  suppressions := by
    simp [Finding.toJson, Finding.members, Entries.find?_append]

theorem result_shows {options : Options} {emission : Emission} {ruleId : Text}
    (named : properRuleId emission.message = some ruleId) (index : Nat) (ruleIndex : Option Nat)
    (prints : Option Fingerprints) :
    ShowsResult options emission (Result.toJson {
      finding := findingOf (emission.uri options) index prints emission.message
      ruleId := ruleId
      ruleIndex := ruleIndex
      suppressions :=
        if Draft.mergesSuppressed options emission.file then
          some ((emission.message.suppressions.getD []).map suppressionOf)
        else none }) where
  toShowsMessage := by
    unfold Result.toJson
    rw [List.append_assoc, List.append_assoc]
    exact findingOf_shows options emission index prints _
  ruleId := by
    obtain ⟨isRuleId, nonempty⟩ := (properRuleId_eq_some_iff _ _).1 named
    refine ⟨ruleId, isRuleId, nonempty, ?_⟩
    simp [Result.toJson, Finding.members, Entries.find?_append]
  suppressions := by
    by_cases merged : emission.IsMerged options
    · have merges := (mergesSuppressed_eq_true_iff options emission).2 merged
      simp [Result.toJson, Finding.members, Entries.find?_append, merged, merges,
        suppressionOf_toJson, Function.comp_def]
    · have keeps : Draft.mergesSuppressed options emission.file = false := by
        rw [← Bool.not_eq_true, mergesSuppressed_eq_true_iff]
        exact merged
      simp [Result.toJson, Finding.members, Entries.find?_append, merged, keeps]

/-! ## All entries -/

/-- Whether an entry is a result with the message of an emission, or a notification with it. -/
inductive Entry.Shows (options : Options) (emission : Emission) : Entry → Prop where
  | result {result : Result} (shows : ShowsResult options emission result.toJson) :
      Shows options emission (.result result)
  | notification {finding : Finding} (shows : ShowsNotification options emission finding.toJson) :
      Shows options emission (.notification finding)

theorem entryOf_shows {options : Options} {tables : Tables} {emission : Emission} {entry : Entry}
    (made : entryOf options tables emission = .ok entry) : entry.Shows options emission := by
  rcases entryAt_cases made with ⟨unnamed, prints, _, isEntry⟩ | ⟨ruleId, prints, named, _, isEntry⟩
  · rw [isEntry]
    exact .notification
      (notification_shows ((properRuleId_eq_none_iff emission).1 unnamed) _ prints)
  · rw [isEntry]
    exact .result (result_shows named _ _ prints)

/-- Entries that show emissions one by one are split as the emissions are. -/
theorem split_entries {options : Options} {sequence : List Emission} {entries : List Entry}
    (shown : List.Forall₂ (fun emission entry => Entry.Shows options emission entry)
      sequence entries) :
    List.Forall₂ (ShowsResult options) (sequence.filter fun emission => emission.IsRuled)
        ((entries.filterMap Entry.result?).map Result.toJson) ∧
      List.Forall₂ (ShowsNotification options)
        (sequence.filter fun emission => ¬ emission.IsRuled)
        ((entries.filterMap Entry.notification?).map Finding.toJson) := by
  have isKind : ∀ emission entry, Entry.Shows options emission entry →
      (entry.result?.isSome ↔ emission.IsRuled) := by
    intro emission entry shows
    cases shows with
    | result shows => exact iff_of_true rfl shows.isRuled
    | notification shows => exact iff_of_false Bool.false_ne_true shows.unruled
  obtain ⟨results, notifications⟩ := forall₂_split isKind shown
  rw [List.forall₂_map_right_iff, List.forall₂_map_right_iff]
  constructor
  · apply results.imp
    intro emission result isShown
    cases isShown with
    | result shows => exact shows
  · apply notifications.imp
    intro emission finding isShown
    cases isShown with
    | notification shows => exact shows

/-- **The entries of a document show the messages that were taken in.**  Its results are those with
a rule id and its notifications all others, each in order; none is lost, repeated or moved. -/
theorem entries_show_emissions {options : Options} {rules : RuleTable} {files : List FileResult}
    {log : Log} (built : Log.ofResults options rules files = .ok log) :
    List.Forall₂ (ShowsResult options)
        ((emissions options files).filter fun emission => emission.IsRuled)
        (resultsIn log.toJson) ∧
      List.Forall₂ (ShowsNotification options)
        ((emissions options files).filter fun emission => ¬ emission.IsRuled)
        (notificationsIn log.toJson) := by
  obtain ⟨entries, made, isLog⟩ := ofResults_eq_ok_iff.1 built
  rw [resultsIn_toJson, notificationsIn_toJson, ← isLog]
  exact split_entries (made.imp fun _ _ isEntry => entryOf_shows isEntry)

theorem entries_show_emissions_sample :
    ∃ log, Log.ofResults sampleOptions sampleRules sampleFiles = .ok log ∧
      List.Forall₂ (ShowsResult sampleOptions)
        ((emissions sampleOptions sampleFiles).filter fun emission => emission.IsRuled)
        (resultsIn log.toJson) ∧
      List.Forall₂ (ShowsNotification sampleOptions)
        ((emissions sampleOptions sampleFiles).filter fun emission => ¬ emission.IsRuled)
        (notificationsIn log.toJson) := by
  obtain ⟨log, built⟩ := sample_succeeds
  exact ⟨log, built, entries_show_emissions built⟩

end Findings.Sarif
