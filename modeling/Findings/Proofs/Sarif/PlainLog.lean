import Findings.Proofs.Sarif.Encodable
import Findings.Proofs.Sarif.SuppressionToggle

/-!
Contract: plain logs, without fingerprints and without a table of rules.

Owns:
- what is erased of a document when it is plain (`withoutFingerprints`, `withoutRules`), and the same
  erased of a log before it is written;
- `ofResults_plain`, `ofResults_unindexed`: a run that is told not to make fingerprints, or not to list
  rules, makes the log of the run that does, with just these erased;
- `plain_of_enhanced`: the two choices on documents, one by one and together.

A run without fingerprints takes the same messages in and hands out the same places, so each entry is
the one it would have been but for its fingerprints.  A run without rules has empty tables of rules,
and an entry depends on those in its place only.
-/

set_option autoImplicit false

namespace Findings

namespace Sarif

open Findings.Lint

/-! ## Erasing in documents -/

/-- A document of which every run is changed. -/
def changedRuns (change : Json → Json) : Json → Json := changedAt "runs" (changedItems change)

/-- A document of which every result is changed. -/
def changedResults (change : Json → Json) : Json → Json :=
  changedRuns (changedAt "results" (changedItems change))

/-- A document of which every notification is changed. -/
def changedNotifications (change : Json → Json) : Json → Json :=
  changedRuns (changedAt "invocations" (changedItems
    (changedAt "toolConfigurationNotifications" (changedItems change))))

/-- A document without fingerprints in its results and notifications. -/
def withoutFingerprints (document : Json) : Json :=
  changedNotifications (without "partialFingerprints")
    (changedResults (without "partialFingerprints") document)

/-- A document that lists no rules, and of which no result has a place among them. -/
def withoutRules (document : Json) : Json :=
  changedRuns (changedAt "tool" (changedAt "driver" (changedAt "rules" fun _ => .array [])))
    (changedResults (without "ruleIndex") document)

/-! ## Erasing in logs -/

/-- A finding without fingerprints. -/
def Finding.plain (finding : Finding) : Finding := { finding with fingerprints := none }

/-- A result without fingerprints. -/
def Result.plain (result : Result) : Result := { result with finding := result.finding.plain }

/-- A result without a place among the rules. -/
def Result.unindexed (result : Result) : Result := { result with ruleIndex := none }

/-- A log without fingerprints. -/
def Log.plain (log : Log) : Log :=
  { log with
    results := log.results.map Result.plain
    notifications := log.notifications.map Finding.plain }

/-- A log without a table of rules. -/
def Log.unindexed (log : Log) : Log :=
  { log with
    driver := { log.driver with rules := [] }
    results := log.results.map Result.unindexed }

/-- It makes no difference which is erased first. -/
theorem Log.unindexed_plain (log : Log) : log.plain.unindexed = log.unindexed.plain := by
  have sameResults : (log.results.map Result.plain).map Result.unindexed =
      (log.results.map Result.unindexed).map Result.plain := by
    rw [List.map_map, List.map_map]
    rfl
  unfold Log.plain Log.unindexed
  rw [sameResults]

section Encoding

@[simp] theorem member?_none {α : Type} (name : String) (encode : α → Json) :
    member? name none encode = [] := rfl

theorem toJson_plain_finding (finding : Finding) :
    finding.plain.toJson = without "partialFingerprints" finding.toJson := by
  simp [Finding.toJson, Finding.members, Finding.plain]

theorem toJson_plain_result (result : Result) :
    result.plain.toJson = without "partialFingerprints" result.toJson := by
  simp [Result.toJson, Finding.members, Finding.plain, Result.plain]

theorem toJson_unindexed_result (result : Result) :
    result.unindexed.toJson = without "ruleIndex" result.toJson := by
  simp [Result.toJson, Finding.members, Result.unindexed]

/-- Fingerprints do not make a run fail or succeed. -/
theorem executionSuccessful_plain (log : Log) :
    log.plain.executionSuccessful = log.executionSuccessful := by
  unfold Log.executionSuccessful Log.plain
  rw [List.all_map]
  rfl

/-- The document of a log without fingerprints is its document without them. -/
theorem toJson_plain (log : Log) : log.plain.toJson = withoutFingerprints log.toJson := by
  have results : log.plain.results.map Result.toJson =
      (log.results.map Result.toJson).map (without "partialFingerprints") := by
    simp [Log.plain, toJson_plain_result]
  have notifications : log.plain.notifications.map Finding.toJson =
      (log.notifications.map Finding.toJson).map (without "partialFingerprints") := by
    simp [Log.plain, toJson_plain_finding]
  have invocations : member? "invocations" (listUnlessEmpty log.plain.notifications)
        (fun _ => .array [log.plain.invocation]) =
      changedMembers "invocations" (changedItems (changedAt "toolConfigurationNotifications"
          (changedItems (without "partialFingerprints"))))
        (member? "invocations" (listUnlessEmpty log.notifications)
          fun _ => .array [log.invocation]) := by
    unfold Log.invocation
    rw [notifications, executionSuccessful_plain]
    unfold Log.plain
    cases log.notifications with
    | nil => rfl
    | cons first rest => simp [listUnlessEmpty, member?]
  unfold Log.toJson Log.runToJson
  rw [results, invocations]
  simp [withoutFingerprints, changedNotifications, changedResults, changedRuns, Log.plain]

/-- The document of a log without rules is its document without them. -/
theorem toJson_unindexed (log : Log) : log.unindexed.toJson = withoutRules log.toJson := by
  have results : log.unindexed.results.map Result.toJson =
      (log.results.map Result.toJson).map (without "ruleIndex") := by
    simp [Log.unindexed, toJson_unindexed_result]
  have invocation : log.unindexed.invocation = log.invocation := rfl
  have fullName : log.unindexed.driver.fullName = log.driver.fullName := rfl
  have driver : log.unindexed.driver.toJson =
      changedAt "rules" (fun _ => .array []) log.driver.toJson := by
    unfold Driver.toJson
    rw [fullName]
    simp [Log.unindexed]
  have automationDetails : log.unindexed.driver.automationDetails =
    log.driver.automationDetails := rfl
  unfold Log.toJson Log.runToJson
  rw [results, invocation, driver, automationDetails]
  simp [withoutRules, changedResults, changedRuns, Log.unindexed]

end Encoding

/-! ## Erasing in entries -/

/-- An entry without fingerprints. -/
def Entry.plain : Entry → Entry
  | .result reported => .result reported.plain
  | .notification finding => .notification finding.plain

/-- An entry without a place among the rules. -/
def Entry.unindexed : Entry → Entry
  | .result reported => .result reported.unindexed
  | .notification finding => .notification finding

section Entries

variable {options : Options} (rules : RuleTable)

/-- A log of entries without fingerprints is the log of the entries without them. -/
theorem logOf_plain (tables : Tables) (entries : List Entry) :
    logOf options rules tables (entries.map Entry.plain) =
      (logOf options rules tables entries).plain := by
  have results : (entries.map Entry.plain).filterMap Entry.result? =
      (entries.filterMap Entry.result?).map Result.plain := by
    rw [List.filterMap_map, List.map_filterMap]
    exact List.filterMap_congr fun entry _ => by cases entry <;> rfl
  have notifications : (entries.map Entry.plain).filterMap Entry.notification? =
      (entries.filterMap Entry.notification?).map Finding.plain := by
    rw [List.filterMap_map, List.map_filterMap]
    exact List.filterMap_congr fun entry _ => by cases entry <;> rfl
  unfold logOf Log.plain
  rw [results, notifications]

/-- A log of entries without places among the rules, under tables without rules. -/
theorem logOf_unindexed (uris ruleIds : List Text) (entries : List Entry) :
    logOf options rules ⟨uris, []⟩ (entries.map Entry.unindexed) =
      (logOf options rules ⟨uris, ruleIds⟩ entries).unindexed := by
  have results : (entries.map Entry.unindexed).filterMap Entry.result? =
      (entries.filterMap Entry.result?).map Result.unindexed := by
    rw [List.filterMap_map, List.map_filterMap]
    exact List.filterMap_congr fun entry _ => by cases entry <;> rfl
  have notifications : (entries.map Entry.unindexed).filterMap Entry.notification? =
      entries.filterMap Entry.notification? := by
    rw [List.filterMap_map]
    exact List.filterMap_congr fun entry _ => by cases entry <;> rfl
  unfold logOf Log.unindexed
  rw [results, notifications]
  rfl

/-- A message that has an entry has it without fingerprints as well. -/
theorem entryOf_plain {tables : Tables} {emission : Emission} {entry : Entry}
    (made : entryOf options tables emission = .ok entry) :
    entryOf { options with fingerprints := false } tables emission = .ok entry.plain := by
  have noPrints : Draft.fingerprintsOf { options with fingerprints := false } emission.message
      (emission.uri options) = .ok none := rfl
  unfold entryOf entryAt
  show (Draft.fingerprintsOf _ emission.message (emission.uri options) >>= _) = _
  rw [noPrints, ok_bind]
  rcases entryAt_cases made with ⟨unnamed, _, _, isEntry⟩ | ⟨ruleId, _, named, _, isEntry⟩
  · rw [isEntry]
    simp only [unnamed]
    rfl
  · rw [isEntry]
    simp only [named]
    rfl

/-- An entry depends on the table of rules in its place only. -/
theorem entryOf_unindexed (uris ruleIds : List Text) (emission : Emission) :
    entryOf { options with indexRules := false } ⟨uris, []⟩ emission =
      (entryOf options ⟨uris, ruleIds⟩ emission).map Entry.unindexed := by
  have samePrints : Draft.fingerprintsOf { options with indexRules := false } =
      Draft.fingerprintsOf options := rfl
  unfold entryOf entryAt
  rw [samePrints]
  show (Draft.fingerprintsOf options emission.message (emission.uri options) >>= _) = _
  cases Draft.fingerprintsOf options emission.message (emission.uri options) with
  | error fault => rfl
  | ok prints =>
      simp only [ok_bind]
      cases properRuleId emission.message with
      | none => rfl
      | some ruleId =>
          simp only
          cases Draft.withRuleFingerprint ruleId prints with
          | error fault => rfl
          | ok allPrints => rfl

end Entries

/-! ## Runs -/

section Runs

variable {options : Options} {rules : RuleTable} {files : List FileResult}

/-- **Without fingerprints.**  Where a run makes a log, the run without fingerprints makes the same
log without them. -/
theorem ofResults_plain {log : Log} (built : Log.ofResults options rules files = .ok log) :
    Log.ofResults { options with fingerprints := false } rules files = .ok log.plain := by
  obtain ⟨entries, made, isLog⟩ := ofResults_eq_ok_iff.1 built
  refine ofResults_eq_ok_iff.2 ⟨entries.map Entry.plain, ?_, ?_⟩
  · exact List.forall₂_map_right_iff.2 (made.imp fun _ _ isMade => entryOf_plain isMade)
  · rw [← isLog]
    exact logOf_plain rules _ entries

/-- A run that lists no rules has the files of the run that does, and an empty table of rules. -/
theorem tables_unindexed (options : Options) (rules : RuleTable) (sequence : List Emission) :
    Tables.of { options with indexRules := false } rules sequence =
      ⟨(Tables.of options rules sequence).uris, []⟩ := by
  unfold Tables.of
  rw [Draft.filterMap_listedRule?_of_unindexed rules _ rfl]
  rfl

/-- **Without rules.**  A run that lists no rules makes the log of the run that does without its
rules, or fails with the same fault. -/
theorem ofResults_unindexed (options : Options) (rules : RuleTable) (files : List FileResult) :
    Log.ofResults { options with indexRules := false } rules files =
      (Log.ofResults options rules files).map Log.unindexed := by
  have sameEmissions : emissions { options with indexRules := false } files =
      emissions options files := rfl
  rw [ofResults_eq, ofResults_eq, sameEmissions, tables_unindexed,
    mapM_congr fun emission _ => entryOf_unindexed _
      (Tables.of options rules (emissions options files)).ruleIds emission,
    mapM_map_result]
  cases (emissions options files).mapM
      (entryOf options (Tables.of options rules (emissions options files))) with
  | error fault => rfl
  | ok entries => exact congrArg Except.ok (logOf_unindexed rules _ _ entries)

/-- **The plain log refines the enhanced one.**  Where a run makes a log with fingerprints, it makes
one without, and its document is the other one with the fingerprints erased.  Without a table of rules
a run does what it does with one, fault for fault, and its document is the other one with the rules
and the places among them erased.  So both choices together erase both, in either order. -/
theorem plain_of_enhanced (options : Options) (rules : RuleTable) (files : List FileResult) :
    (∀ log, Log.ofResults { options with fingerprints := true } rules files = .ok log →
      ∃ plain, Log.ofResults { options with fingerprints := false } rules files = .ok plain ∧
        plain.toJson = withoutFingerprints log.toJson) ∧
    (Log.ofResults { options with indexRules := false } rules files).map Log.toJson =
      (Log.ofResults { options with indexRules := true } rules files).map
        (fun log => withoutRules log.toJson) ∧
    ∀ log, Log.ofResults { options with fingerprints := true, indexRules := true } rules files =
        .ok log →
      withoutRules (withoutFingerprints log.toJson) = withoutFingerprints (withoutRules log.toJson) ∧
        ∃ plain, Log.ofResults { options with fingerprints := false, indexRules := false }
            rules files = .ok plain ∧
          plain.toJson = withoutRules (withoutFingerprints log.toJson) := by
  refine ⟨?fingerprints, ?rules, ?both⟩
  case fingerprints =>
    intro log built
    exact ⟨log.plain, @ofResults_plain { options with fingerprints := true } rules files log built,
      toJson_plain log⟩
  case rules =>
    rw [ofResults_unindexed { options with indexRules := true }]
    cases Log.ofResults { options with indexRules := true } rules files with
    | error fault => rfl
    | ok log => exact congrArg Except.ok (toJson_unindexed log)
  case both =>
    intro log built
    rw [← toJson_plain, ← toJson_unindexed, ← toJson_unindexed, ← toJson_plain]
    refine ⟨congrArg Log.toJson log.unindexed_plain, log.plain.unindexed, ?_, rfl⟩
    rw [ofResults_unindexed { options with fingerprints := false, indexRules := true },
      @ofResults_plain { options with fingerprints := true, indexRules := true } rules files log built]
    rfl

end Runs

/-- The small run with fingerprints makes a log, and is the small run without. -/
theorem plain_of_enhanced_sample :
    ∃ log plain,
      Log.ofResults { sampleOptions with fingerprints := true, indexRules := true } sampleRules
        sampleFiles = .ok log ∧
      Log.ofResults { sampleOptions with fingerprints := false, indexRules := false } sampleRules
        sampleFiles = .ok plain ∧
      plain.toJson = withoutRules (withoutFingerprints log.toJson) := by
  cases made : Log.ofResults { sampleOptions with fingerprints := true, indexRules := true }
      sampleRules sampleFiles with
  | error fault =>
      have faulty := ofResults_eq_error_iff.1 made
      have sound : (emissions { sampleOptions with fingerprints := true, indexRules := true }
        sampleFiles).findSome? (Emission.encodeFault?
          { sampleOptions with fingerprints := true, indexRules := true }) = none := rfl
      exact absurd (sound.symm.trans faulty) (by simp)
  | ok log =>
      obtain ⟨-, plain, plainMade, isPlain⟩ :=
        (plain_of_enhanced sampleOptions sampleRules sampleFiles).2.2 log made
      exact ⟨log, plain, rfl, plainMade, isPlain⟩

end Sarif

end Findings
