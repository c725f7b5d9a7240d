import Findings.Proofs.Sarif.Run
import Findings.Proofs.Summary.Groups
import Findings.Proofs.Summary.View
import Findings.Summary.Print

/-!
Contract: what a summary shows of the messages of a run.

Owns:
- `Entry.ofEmission`, the finding that is shown of a message, and `notificationsFirst`, the order in
  which messages are shown;
- `located_entries`: the entries of a log, with the locations of their files, are shown as the
  messages are;
- `View.ofEmissions` and `ofLog_eq_ofEmissions`: the view of a log in terms of the messages alone;
- `ofLog_eq_print`: what is printed of a log is its view.

The places in the tables are in no view, so a view needs no table but for its length.
-/

set_option autoImplicit false

namespace Findings

open Findings.Lint Findings.Sarif

/-- The messages without a rule id, in their order, and then the others in theirs. -/
def Sarif.notificationsFirst (sequence : List Emission) : List Emission :=
  sequence.filter (fun emission => ¬ emission.IsRuled) ++
    sequence.filter fun emission => emission.IsRuled

theorem Sarif.notificationsFirst_perm (sequence : List Emission) :
    (notificationsFirst sequence).Perm sequence := by
  have split := List.filter_append_perm (fun emission : Emission => decide emission.IsRuled) sequence
  refine List.Perm.trans ?_ split
  simp only [notificationsFirst, decide_not]
  exact List.perm_append_comm

namespace Summary

/-! ## One message -/

/-- The finding that a summary shows of a message. -/
def Entry.ofEmission (options : Options) (emission : Emission) : Entry where
  icon := iconOf (.text (levelOf emission.message).toText)
  label := (properRuleId emission.message).getD internalErrorId
  position := positionText (regionOf emission.message)
  text := emission.message.text
  suppressed := decide (emission.IsRuled ∧ emission.IsMerged options ∧
    emission.message.suppressions.getD [] ≠ [])

/-- A message with the location of its file, as it is shown. -/
def locatedEmission (options : Options) (emission : Emission) : Text × Entry :=
  (emission.uri options, Entry.ofEmission options emission)

/-- An entry with the location of its file, as it is shown. -/
def locatedEntry (entry : Sarif.Entry) : Text × Entry :=
  (entry.finding.location.uri, Entry.ofEntry entry)

/-- The entry of a message is shown as the message is. -/
theorem locatedEntry_of_entryOf {options : Options} {tables : Tables} {emission : Emission}
    {entry : Sarif.Entry} (made : entryOf options tables emission = .ok entry) :
    locatedEmission options emission = locatedEntry entry := by
  rcases entryAt_cases made with ⟨unnamed, prints, -, rfl⟩ | ⟨ruleId, prints, named, -, rfl⟩
  · have unruled := (properRuleId_eq_none_iff emission).1 unnamed
    simp [locatedEmission, locatedEntry, Entry.ofEmission, Entry.ofEntry, Sarif.Entry.finding,
      findingOf, labelText, hasSuppressions, unnamed, unruled]
  · obtain ⟨isRuleId, nonempty⟩ := (properRuleId_eq_some_iff _ _).1 named
    have ruled : emission.IsRuled := ⟨ruleId, isRuleId, nonempty⟩
    by_cases merged : emission.IsMerged options
    · have merges := (mergesSuppressed_eq_true_iff options emission).2 merged
      simp [locatedEmission, locatedEntry, Entry.ofEmission, Entry.ofEntry, Sarif.Entry.finding,
        findingOf, labelText, hasSuppressions, named, nonempty, ruled, merged, merges]
      cases emission.message.suppressions.getD [] <;> rfl
    · have keeps : Draft.mergesSuppressed options emission.file = false := by
        rw [← Bool.not_eq_true, mergesSuppressed_eq_true_iff]
        exact merged
      simp [locatedEmission, locatedEntry, Entry.ofEmission, Entry.ofEntry, Sarif.Entry.finding,
        findingOf, labelText, hasSuppressions, named, nonempty, merged, keeps]

theorem level_of_entryOf {options : Options} {tables : Tables} {emission : Emission}
    {entry : Sarif.Entry} (made : entryOf options tables emission = .ok entry) :
    levelOf emission.message = entry.finding.level := by
  rcases entryAt_cases made with ⟨-, prints, -, rfl⟩ | ⟨ruleId, prints, -, -, rfl⟩ <;> rfl

/-! ## All messages of a run -/

section Runs

variable {options : Options} {rules : RuleTable} {files : List FileResult} {log : Log}

/-- What is said of single entries as of their messages is said of results and notifications as of
the messages with and without a rule id. -/
theorem map_entries {β : Type} {ofEntry : Sarif.Entry → β} {ofEmission : Emission → β}
    (alike : ∀ {tables emission entry}, entryOf options tables emission = .ok entry →
      ofEmission emission = ofEntry entry)
    (built : Log.ofResults options rules files = .ok log) :
    log.notifications.map (fun finding => ofEntry (.notification finding)) =
        ((emissions options files).filter fun emission => ¬ emission.IsRuled).map ofEmission ∧
      log.results.map (fun result => ofEntry (.result result)) =
        ((emissions options files).filter fun emission => emission.IsRuled).map ofEmission := by
  obtain ⟨entries, made, rfl⟩ := ofResults_eq_ok_iff.1 built
  obtain ⟨results, notifications⟩ := split_entryOf made
  exact ⟨(map_eq_map_of_forall₂ (notifications.imp fun _ _ isMade => alike isMade)).symm,
    (map_eq_map_of_forall₂ (results.imp fun _ _ isMade => alike isMade)).symm⟩

/-- The entries of a log are shown as the messages are, those without a rule id first. -/
theorem located_entries (built : Log.ofResults options rules files = .ok log) :
    log.entries.map locatedEntry =
      (notificationsFirst (emissions options files)).map (locatedEmission options) := by
  obtain ⟨notifications, results⟩ := map_entries locatedEntry_of_entryOf built
  unfold Log.entries notificationsFirst
  rw [List.map_append, List.map_append, List.map_map, List.map_map, ← notifications, ← results]
  rfl

/-- The listed files are those of the messages, each listed once. -/
theorem artifactUris_eq (built : Log.ofResults options rules files = .ok log) :
    log.artifacts.map Artifact.uri =
      ((emissions options files).map (Emission.uri options)).eraseDups := by
  obtain ⟨entries, -, rfl⟩ := ofResults_eq_ok_iff.1 built
  unfold logOf Tables.of
  rw [List.map_map]
  exact List.map_id _

/-- The locations of the entries are the listed files, some of them more than once. -/
theorem mem_artifactUris_iff (built : Log.ofResults options rules files = .ok log) (uri : Text) :
    uri ∈ log.artifacts.map Artifact.uri ↔
      uri ∈ log.entries.map fun entry => entry.finding.location.uri := by
  have entryUris : log.entries.map (fun entry => entry.finding.location.uri) =
      (log.entries.map locatedEntry).map Prod.fst := by
    rw [List.map_map]
    rfl
  rw [entryUris, located_entries built, List.map_map, artifactUris_eq built, List.mem_eraseDups]
  exact ((notificationsFirst_perm _).map _).mem_iff.symm

/-! ## The view in terms of messages -/

/-- Findings by file, files in order of their locations. -/
def groupsOfLocated (located : List (Text × Entry)) : List Group :=
  (groupSorted located).map fun group => { uri := group.1, entries := group.2 }

theorem groupsOf_eq (entries : List Sarif.Entry) :
    groupsOf entries = groupsOfLocated (entries.map locatedEntry) := by
  have grouped := groupSorted_map Entry.ofEntry
    (entries.map fun entry => (entry.finding.location.uri, entry))
  rw [List.map_map] at grouped
  have sameItems : entries.map locatedEntry =
      entries.map ((fun item : Text × Sarif.Entry => (item.1, Entry.ofEntry item.2)) ∘
        fun entry => (entry.finding.location.uri, entry)) := rfl
  unfold groupsOf groupsOfLocated
  rw [sameItems, grouped]
  unfold Entries.mapValues
  rw [List.map_map]
  rfl

/-- The name of the tool of a run, together with its version if that is known. -/
def toolNameOfOptions (options : Options) : Text :=
  (options.toolVersion.map fun version =>
    options.toolName ++ Text.ofString " v" ++ version).getD options.toolName

/-- What a summary tells about a run that takes in a sequence of messages. -/
def View.ofEmissions (options : Options) (rules : RuleTable) (details : Bool)
    (sequence : List Emission) : View where
  toolName := toolNameOfOptions options
  artifacts := (Tables.of options rules sequence).uris.length
  groups :=
    if details then
      groupsOfLocated ((notificationsFirst sequence).map (locatedEmission options))
    else []
  results := sequence.countP fun emission => emission.IsRuled
  suppressed := sequence.countP fun emission => (Entry.ofEmission options emission).suppressed
  rules := (Tables.of options rules sequence).ruleIds.length
  notifications := sequence.countP fun emission => ¬ emission.IsRuled
  successful := sequence.all fun emission =>
    emission.IsRuled || levelOf emission.message != .error

theorem suppressed_count (built : Log.ofResults options rules files = .ok log) :
    (log.results.countP fun result => hasSuppressions (.result result)) =
      (emissions options files).countP fun emission =>
        (Entry.ofEmission options emission).suppressed := by
  have shown := (@map_entries options rules files log _ (fun entry => hasSuppressions entry)
    (fun emission => (Entry.ofEmission options emission).suppressed)
    (fun made => congrArg (fun located => located.2.suppressed) (locatedEntry_of_entryOf made))
    built).2
  have onResults := congrArg (List.countP id) shown
  rw [List.countP_map, List.countP_map, List.countP_filter] at onResults
  refine onResults.trans (List.countP_congr fun emission _ => ?_)
  simp only [Entry.ofEmission, Function.comp_apply, id_eq, Bool.and_eq_true, decide_eq_true_eq]
  exact ⟨fun both => both.1, fun marked => ⟨marked, marked.1⟩⟩

theorem successful_iff (built : Log.ofResults options rules files = .ok log) :
    log.executionSuccessful = (emissions options files).all fun emission =>
      emission.IsRuled || levelOf emission.message != .error := by
  have levels := (@map_entries options rules files log _ (fun entry => entry.finding.level)
    (fun emission => levelOf emission.message) level_of_entryOf built).1
  have ofLevels : log.executionSuccessful =
      (log.notifications.map fun finding => finding.level).all fun level => level != .error := by
    rw [List.all_map]
    rfl
  rw [ofLevels, show (log.notifications.map fun finding => finding.level) = _ from levels,
    List.all_map, List.all_filter]
  congr 1
  funext emission
  by_cases ruled : emission.IsRuled <;> simp [ruled]

/-- **The view of a log in terms of the messages that were taken in.** -/
theorem ofLog_eq_ofEmissions (details : Bool)
    (built : Log.ofResults options rules files = .ok log) :
    View.ofLog details log =
      View.ofEmissions options rules details (emissions options files) := by
  have groups : groupsOf log.entries =
      groupsOfLocated ((notificationsFirst (emissions options files)).map
        (locatedEmission options)) := by
    rw [groupsOf_eq, located_entries built]
  have suppressed := suppressed_count built
  have successful := successful_iff built
  obtain ⟨notifications, results⟩ := @map_entries options rules files log _ (fun _ => ())
    (fun _ => ()) (fun _ => rfl) built
  replace notifications := congrArg List.length notifications
  replace results := congrArg List.length results
  rw [List.length_map, List.length_map, ← List.countP_eq_length_filter] at notifications results
  unfold View.ofLog View.ofEmissions
  rw [groups, suppressed, successful, notifications, results]
  obtain ⟨entries, -, rfl⟩ := ofResults_eq_ok_iff.1 built
  unfold logOf
  simp only [List.length_map]
  rfl

end Runs

/-- The summary of a log can always be printed. -/
theorem ofLog_eq_print (width : Nat) (details : Bool) (log : Log) :
    ofLog width details log = .ok ((View.ofLog details log).print width) := by
  unfold ofLog ofJson
  rw [ofJson_toJson]
  rfl

end Summary

end Findings
