import Findings.Proofs.Sarif.Document
import Findings.Proofs.Sarif.Run

/-!
Contract: what more files add to a run.

Owns:
- `Extends`, what it means that a document repeats all of another one and only adds to its ends;
- `extends_of_append`: a run over more files extends the run over the first of them, and succeeds
  only if that one does.

What carries the result is that tables only grow at their ends, so an entry that was made under the
tables of the first files is the same under the tables of all of them.
-/

set_option autoImplicit false

namespace Findings.Sarif

open Findings.Lint Findings.FirstAppearance

/-! ## Documents that extend each other -/

/-- A document repeats the lists of an earlier one and only adds to their ends.  Once a document
tells of a failure, so does every document that extends it. -/
structure Extends (earlier later : Json) : Prop where
  artifacts : artifactsIn earlier <+: artifactsIn later
  rules : rulesIn earlier <+: rulesIn later
  results : resultsIn earlier <+: resultsIn later
  notifications : notificationsIn earlier <+: notificationsIn later
  failed : successIn? earlier = some (.bool false) → successIn? later = some (.bool false)

/-! ## Runs over more files -/

section Growth

variable (options : Options) (rules : RuleTable)

theorem emissions_append (before after : List FileResult) :
    emissions options (before ++ after) = emissions options before ++ emissions options after :=
  List.flatMap_append

theorem eraseDups_prefix_append (items more : List Text) :
    items.eraseDups <+: (items ++ more).eraseDups := by
  rw [List.eraseDups_append]
  exact List.prefix_append _ _

/-- The files of a run stay where they are when it goes on. -/
theorem uris_prefix_append (sequence more : List Emission) :
    (Tables.of options rules sequence).uris <+:
      (Tables.of options rules (sequence ++ more)).uris := by
  unfold Tables.of
  rw [List.map_append]
  exact eraseDups_prefix_append _ _

/-- The rules of a run stay where they are when it goes on. -/
theorem ruleIds_prefix_append (sequence more : List Emission) :
    (Tables.of options rules sequence).ruleIds <+:
      (Tables.of options rules (sequence ++ more)).ruleIds := by
  unfold Tables.of
  rw [List.filterMap_append]
  exact eraseDups_prefix_append _ _

/-- A run that goes on has the entries that it had. -/
theorem entries_of_append {sequence more : List Emission} {entries : List Entry}
    (made : (sequence ++ more).mapM (entryOf options (Tables.of options rules (sequence ++ more))) =
      .ok entries) :
    ∃ first, sequence.mapM (entryOf options (Tables.of options rules sequence)) = .ok first ∧
      first <+: entries := by
  have sameEntries : sequence.mapM (entryOf options (Tables.of options rules (sequence ++ more))) =
      sequence.mapM (entryOf options (Tables.of options rules sequence)) :=
    mapM_congr fun emission member => entryOf_append options rules sequence more member
  rw [List.mapM_append, sameEntries] at made
  obtain ⟨first, firstMade, made⟩ := bind_eq_ok_iff.1 made
  obtain ⟨others, _, together⟩ := bind_eq_ok_iff.1 made
  cases together
  exact ⟨first, firstMade, List.prefix_append _ _⟩

/-- A log with longer tables and more entries behind them extends a log. -/
theorem extends_of_prefix {tables moreTables : Tables} {entries moreEntries : List Entry}
    (uris : tables.uris <+: moreTables.uris) (ruleIds : tables.ruleIds <+: moreTables.ruleIds)
    (entriesFirst : entries <+: moreEntries) :
    Extends (logOf options rules tables entries).toJson
      (logOf options rules moreTables moreEntries).toJson where
  artifacts := by
    rw [artifactsIn_toJson, artifactsIn_toJson]
    exact (uris.map Artifact.mk).map Artifact.toJson
  rules := by
    rw [rulesIn_toJson, rulesIn_toJson]
    exact (ruleIds.map (describe rules)).map RuleDescriptor.toJson
  results := by
    rw [resultsIn_toJson, resultsIn_toJson]
    exact (entriesFirst.filterMap Entry.result?).map Result.toJson
  notifications := by
    rw [notificationsIn_toJson, notificationsIn_toJson]
    exact (entriesFirst.filterMap Entry.notification?).map Finding.toJson
  failed := by
    rw [successIn?_eq_false_iff, successIn?_eq_false_iff]
    rintro ⟨notification, member, isError⟩
    have shownLater := (entriesFirst.filterMap Entry.notification?).subset member
    exact ⟨notification, shownLater, isError⟩

end Growth

/-- **More files only add to a run.**  If a run over some files and then others succeeds, so does the
run over the first ones, and its document is repeated: the artifacts, rules, results and
notifications come first and unchanged, and a failure remains one. -/
theorem extends_of_append {options : Options} {rules : RuleTable} {before after : List FileResult}
    {whole : Log} (built : Log.ofResults options rules (before ++ after) = .ok whole) :
    ∃ log, Log.ofResults options rules before = .ok log ∧ Extends log.toJson whole.toJson := by
  rw [ofResults_eq, map_eq_ok_iff, emissions_append] at built
  obtain ⟨entries, made, isWhole⟩ := built
  obtain ⟨first, firstMade, isPrefix⟩ := entries_of_append options rules made
  refine ⟨logOf options rules (Tables.of options rules (emissions options before)) first, ?_, ?_⟩
  · rw [ofResults_eq, firstMade]
    rfl
  · rw [← isWhole]
    exact extends_of_prefix options rules (uris_prefix_append ..) (ruleIds_prefix_append ..) isPrefix

/-- The small run extends the run over its first file. -/
theorem extends_of_append_sample :
    ∃ log whole, Log.ofResults sampleOptions sampleRules (sampleFiles.take 1) = .ok log ∧
      Log.ofResults sampleOptions sampleRules (sampleFiles.take 1 ++ sampleFiles.drop 1) =
        .ok whole ∧
      Extends log.toJson whole.toJson := by
  obtain ⟨whole, built⟩ := sample_succeeds
  obtain ⟨log, logBuilt, isExtended⟩ :=
    @extends_of_append sampleOptions sampleRules (sampleFiles.take 1) (sampleFiles.drop 1) whole built
  exact ⟨log, whole, logBuilt, built, isExtended⟩

end Findings.Sarif
