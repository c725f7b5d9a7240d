import Findings.Proofs.Sarif.Resolved
import Mathlib.Data.List.Perm.Basic

/-!
Contract: the order of files in a run.

Owns:
- `SameFindings`, what two documents have in common that tell the same in another order: the same
  records of files and rules, the same entries once these hold the records that they point at, and
  the same tool and outcome;
- `sameFindings_of_perm`: files in another order make a run that tells the same.

The places in the tables all change with the order.  What stays is which files and rules are listed,
and that is all that a resolved entry depends on.
-/

set_option autoImplicit false

namespace Findings.Sarif

open Findings.Lint Findings.FirstAppearance

/-! ## Documents that tell the same -/

/-- Two documents tell the same: the same files and rules, each in some order; the same entries in
some order, where an entry is taken with the records that it points at; and the same outcome, the
same identity of the run, and the same tool up to its list of rules. -/
structure SameFindings (left right : Json) : Prop where
  artifacts : (artifactsIn left).Perm (artifactsIn right)
  rules : (rulesIn left).Perm (rulesIn right)
  results : ((resultsIn left).map (resolved left)).Perm ((resultsIn right).map (resolved right))
  notifications : ((notificationsIn left).map (resolved left)).Perm
    ((notificationsIn right).map (resolved right))
  invoked_iff : ((runOf left).member? "invocations").isSome ↔
    ((runOf right).member? "invocations").isSome
  success : successIn? left = successIn? right
  automationDetails : (runOf left).member? "automationDetails" =
    (runOf right).member? "automationDetails"
  tool : ((runOf left).member? "tool").map (changedAt "driver" (changedAt "rules" fun _ => .null)) =
    ((runOf right).member? "tool").map (changedAt "driver" (changedAt "rules" fun _ => .null))

/-! ## Files and rules in another order -/

section Order

variable {options : Options} {rules : RuleTable} {sequence reordered : List Emission}

theorem emissions_perm (options : Options) {files others : List FileResult}
    (sameFiles : others.Perm files) : (emissions options others).Perm (emissions options files) :=
  sameFiles.flatMap_right _

theorem eraseDups_perm {left right : List Text} (sameItems : left.Perm right) :
    left.eraseDups.Perm right.eraseDups := by
  rw [List.perm_ext_iff_of_nodup (nodup_eraseDups left) (nodup_eraseDups right)]
  intro item
  rw [List.mem_eraseDups, List.mem_eraseDups]
  exact sameItems.mem_iff

theorem uris_perm (sameEmissions : reordered.Perm sequence) :
    (Tables.of options rules reordered).uris.Perm (Tables.of options rules sequence).uris :=
  eraseDups_perm (sameEmissions.map _)

theorem ruleIds_perm (sameEmissions : reordered.Perm sequence) :
    (Tables.of options rules reordered).ruleIds.Perm (Tables.of options rules sequence).ruleIds :=
  eraseDups_perm (sameEmissions.filterMap _)

/-- Under tables that list the same, messages have entries that agree one by one. -/
theorem exists_agreeing_entries {tables others : Tables}
    (sameUris : ∀ uri, uri ∈ tables.uris ↔ uri ∈ others.uris)
    (sameRules : ∀ ruleId, ruleId ∈ tables.ruleIds ↔ ruleId ∈ others.ruleIds)
    (listed : ∀ emission ∈ sequence, emission.uri options ∈ tables.uris) {entries : List Entry}
    (made : List.Forall₂ (fun emission entry => entryOf options tables emission = .ok entry)
      sequence entries) :
    ∃ agreeing, List.Forall₂ (fun emission entry => entryOf options others emission = .ok entry)
        sequence agreeing ∧
      List.Forall₂ (Entry.Agrees (tables.records rules) (others.records rules))
        entries agreeing := by
  induction made with
  | nil => exact ⟨[], .nil, .nil⟩
  | cons first _ inductionHypothesis =>
      obtain ⟨firstListed, restListed⟩ := List.forall_mem_cons.1 listed
      obtain ⟨entry, entryMade, entryAgrees⟩ :=
        exists_agreeing_entry rules sameUris sameRules firstListed first
      obtain ⟨agreeing, othersMade, othersAgree⟩ := inductionHypothesis restListed
      exact ⟨entry :: agreeing, .cons entryMade othersMade, .cons entryAgrees othersAgree⟩

end Order

/-! ## Entries that agree -/

section Agreement

variable {left right : List Json × List Json} {entries others : List Entry}

/-- Agreeing entries have results and notifications that agree. -/
theorem split_agreeing (agree : List.Forall₂ (Entry.Agrees left right) entries others) :
    List.Forall₂ (fun first second =>
        resolvedBy left.1 left.2 first.toJson = resolvedBy right.1 right.2 second.toJson)
        (entries.filterMap Entry.result?) (others.filterMap Entry.result?) ∧
      List.Forall₂ (fun first second => first.level = second.level ∧
        resolvedBy left.1 left.2 first.toJson = resolvedBy right.1 right.2 second.toJson)
        (entries.filterMap Entry.notification?) (others.filterMap Entry.notification?) := by
  induction agree with
  | nil => exact ⟨.nil, .nil⟩
  | cons first _ inductionHypothesis =>
      obtain ⟨results, notifications⟩ := inductionHypothesis
      cases first with
      | result same => exact ⟨.cons same results, notifications⟩
      | notification sameLevel same => exact ⟨results, .cons ⟨sameLevel, same⟩ notifications⟩

end Agreement

/-! ## Runs over files in another order -/

section Documents

variable (options : Options) (rules : RuleTable) (tables : Tables) (entries : List Entry)

theorem resolved_logOf :
    resolved (logOf options rules tables entries).toJson =
      resolvedBy (tables.records rules).1 (tables.records rules).2 := by
  unfold resolved
  rw [artifactsIn_logOf, rulesIn_logOf, Tables.records]

theorem resolvedResults_logOf :
    (resultsIn (logOf options rules tables entries).toJson).map
        (resolved (logOf options rules tables entries).toJson) =
      (entries.filterMap Entry.result?).map fun result =>
        resolvedBy (tables.records rules).1 (tables.records rules).2 result.toJson := by
  rw [resolved_logOf, resultsIn_toJson, List.map_map]
  rfl

theorem resolvedNotifications_logOf :
    (notificationsIn (logOf options rules tables entries).toJson).map
        (resolved (logOf options rules tables entries).toJson) =
      (entries.filterMap Entry.notification?).map fun finding =>
        resolvedBy (tables.records rules).1 (tables.records rules).2 finding.toJson := by
  rw [resolved_logOf, notificationsIn_toJson, List.map_map]
  rfl

theorem automationDetails_logOf :
    (runOf (logOf options rules tables entries).toJson).member? "automationDetails" =
      options.toolVersion.map (logOf options rules tables entries).driver.automationDetails := by
  rw [runOf_toJson]
  simp [Log.runToJson, Entries.find?_append, logOf]

/-- The tool of a run, but for its rules, is what the options say. -/
theorem tool_logOf :
    ((runOf (logOf options rules tables entries).toJson).member? "tool").map
        (changedAt "driver" (changedAt "rules" fun _ => .null)) =
      ((runOf (logOf options rules ⟨[], []⟩ []).toJson).member? "tool").map
        (changedAt "driver" (changedAt "rules" fun _ => .null)) := by
  have fullName : ∀ driver : Driver, driver.fullName = fun version =>
      driver.name ++ Text.ofString " v" ++ version := fun _ => rfl
  rw [runOf_toJson, runOf_toJson]
  simp [Log.runToJson, Entries.find?_append, logOf, Driver.toJson, fullName]

end Documents

section Levels

variable {left right : Log}

/-- The invocation is told of just when there are notifications. -/
theorem invocations_isSome_iff (log : Log) :
    ((runOf log.toJson).member? "invocations").isSome ↔ log.notifications ≠ [] := by
  rw [runOf_toJson]
  cases shown : log.notifications with
  | nil => simp [Log.runToJson, Entries.find?_append, shown, listUnlessEmpty]
  | cons first rest => simp [Log.runToJson, Entries.find?_append, shown, listUnlessEmpty]

theorem notifications_ne_nil_iff (sameLevels :
    (left.notifications.map Finding.level).Perm (right.notifications.map Finding.level)) :
    left.notifications ≠ [] ↔ right.notifications ≠ [] := by
  have sameCount := sameLevels.length_eq
  rw [List.length_map, List.length_map] at sameCount
  rw [← List.length_pos_iff, ← List.length_pos_iff, sameCount]

/-- The outcome of a run depends on the levels of its notifications only. -/
theorem successIn?_eq_of_levels (sameLevels :
    (left.notifications.map Finding.level).Perm (right.notifications.map Finding.level)) :
    successIn? left.toJson = successIn? right.toJson := by
  have ofLevels : ∀ log : Log, log.executionSuccessful =
      (log.notifications.map Finding.level).all fun level => level != .error := by
    intro log
    rw [List.all_map]
    rfl
  have sameOutcome : left.executionSuccessful = right.executionSuccessful := by
    rw [ofLevels, ofLevels, sameLevels.all_eq]
  have sameEmptiness := not_iff_not.1 (notifications_ne_nil_iff sameLevels)
  rw [successIn?_toJson, successIn?_toJson, sameOutcome, if_congr sameEmptiness rfl rfl]

end Levels

/-- Logs of one run whose entries agree, under tables that list the same, tell the same. -/
theorem sameFindings_of_agreeing (options : Options) (rules : RuleTable) {tables others : Tables}
    {entries agreeing : List Entry} (sameUris : others.uris.Perm tables.uris)
    (sameRules : others.ruleIds.Perm tables.ruleIds) {moved : List Entry}
    (sameEntries : moved.Perm entries)
    (agree : List.Forall₂ (Entry.Agrees (tables.records rules) (others.records rules))
      moved agreeing) :
    SameFindings (logOf options rules others agreeing).toJson
      (logOf options rules tables entries).toJson := by
  obtain ⟨resultsAgree, notificationsAgree⟩ := split_agreeing agree
  have sameNotifications := sameEntries.filterMap Entry.notification?
  have sameLevels : ((agreeing.filterMap Entry.notification?).map Finding.level).Perm
      ((entries.filterMap Entry.notification?).map Finding.level) := by
    rw [← map_eq_map_of_forall₂ (notificationsAgree.imp fun _ _ same => same.1)]
    exact sameNotifications.map _
  refine {
    artifacts := ?artifacts
    rules := ?rules
    results := ?results
    notifications := ?notifications
    invoked_iff := ?invoked_iff
    success := ?success
    automationDetails := ?automationDetails
    tool := ?tool }
  case artifacts =>
    rw [artifactsIn_logOf, artifactsIn_logOf]
    exact sameUris.map _
  case rules =>
    rw [rulesIn_logOf, rulesIn_logOf]
    exact sameRules.map _
  case results =>
    rw [resolvedResults_logOf, resolvedResults_logOf, ← map_eq_map_of_forall₂ resultsAgree]
    exact (sameEntries.filterMap Entry.result?).map _
  case notifications =>
    rw [resolvedNotifications_logOf, resolvedNotifications_logOf,
      ← map_eq_map_of_forall₂ (notificationsAgree.imp fun _ _ same => same.2)]
    exact sameNotifications.map _
  case invoked_iff =>
    rw [invocations_isSome_iff, invocations_isSome_iff]
    exact notifications_ne_nil_iff sameLevels
  case success => exact successIn?_eq_of_levels sameLevels
  case automationDetails =>
    rw [automationDetails_logOf, automationDetails_logOf]
    rfl
  case tool => rw [tool_logOf, tool_logOf options rules tables]

/-- **The order of files does not matter.**  If a run succeeds, so does the run over the same files in
another order, and both documents tell the same. -/
theorem sameFindings_of_perm {options : Options} {rules : RuleTable}
    {files others : List FileResult} {log : Log}
    (built : Log.ofResults options rules files = .ok log) (sameFiles : others.Perm files) :
    ∃ otherLog, Log.ofResults options rules others = .ok otherLog ∧
      SameFindings otherLog.toJson log.toJson := by
  obtain ⟨entries, made, isLog⟩ := ofResults_eq_ok_iff.1 built
  have sameEmissions := emissions_perm options sameFiles
  have sameUris := @uris_perm options rules _ _ sameEmissions
  have sameRules := @ruleIds_perm options rules _ _ sameEmissions
  obtain ⟨moved, movedMade, sameEntries⟩ := List.perm_comp_forall₂ sameEmissions made
  have listed : ∀ emission ∈ emissions options others,
      emission.uri options ∈ (Tables.of options rules (emissions options files)).uris := by
    intro emission isEmitted
    rw [Tables.of, List.mem_eraseDups]
    exact List.mem_map_of_mem (sameEmissions.mem_iff.1 isEmitted)
  obtain ⟨agreeing, agreeingMade, agree⟩ := exists_agreeing_entries (fun uri => sameUris.mem_iff.symm)
    (fun ruleId => sameRules.mem_iff.symm) listed movedMade
  refine ⟨_, ofResults_eq_ok_iff.2 ⟨agreeing, agreeingMade, rfl⟩, ?_⟩
  rw [← isLog]
  exact sameFindings_of_agreeing options rules sameUris sameRules sameEntries agree

/-- The small run and the run over its files in reverse tell the same. -/
theorem sameFindings_of_perm_sample :
    ∃ log otherLog, Log.ofResults sampleOptions sampleRules sampleFiles = .ok log ∧
      Log.ofResults sampleOptions sampleRules sampleFiles.reverse = .ok otherLog ∧
      SameFindings otherLog.toJson log.toJson := by
  obtain ⟨log, built⟩ := sample_succeeds
  obtain ⟨otherLog, otherBuilt, same⟩ := sameFindings_of_perm built sampleFiles.reverse_perm
  exact ⟨log, otherLog, built, otherBuilt, same⟩

end Findings.Sarif
