import Findings.Proofs.Sarif.Document
import Findings.Proofs.Sarif.Run

/-!
Contract: the rules of a document and the results that point at them.

Owns:
- `ListsRules`, what a table of rules has to say and what results have to say of it, in terms of the
  document and the metadata alone;
- `rules_of_results`: the table of a run holds the rules of its results that have metadata, once
  each, in the order of their first results; a run that lists no rules has an empty table.
-/

set_option autoImplicit false

namespace Findings.Sarif

open Findings.Lint Findings.FirstAppearance

/-! ## What a table has to say -/

/-- The record of a rule in a document.  Nothing but its id and its metadata has a say in it. -/
def ruleRecord (ruleId : Text) (known : RuleMeta) : Json := (descriptorOf ruleId known).toJson

/-- A document lists the rules of its results that have metadata: each of them once and in the order
of the first results.  A result points at the record of its own rule if there is one, and at none
otherwise.  Only rules of messages that were taken in are listed. -/
structure ListsRules (rules : RuleTable) (sequence : List Emission) (document : Json) : Prop where
  records : rulesIn document =
    (ruleIdsIn document).eraseDups.filterMap fun ruleId =>
      (rules.meta? ruleId).map (ruleRecord ruleId)
  nodup : ((rulesIn document).map (Json.member? "id")).Nodup
  indexed_iff : ∀ result ∈ resultsIn document, ∃ ruleId,
    result.member? "ruleId" = some (.text ruleId) ∧
      ((result.member? "ruleIndex").isSome ↔ (rules.meta? ruleId).isSome)
  located : ∀ result ∈ resultsIn document, ∀ shown, result.member? "ruleIndex" = some shown →
    ∃ (index : Nat) (record : Json), shown = .int index ∧ (rulesIn document)[index]? = some record ∧
      record.member? "id" = result.member? "ruleId"
  same_iff : ∀ left ∈ resultsIn document, ∀ right ∈ resultsIn document,
    (left.member? "ruleIndex").isSome → (right.member? "ruleIndex").isSome →
      (left.member? "ruleIndex" = right.member? "ruleIndex" ↔
        left.member? "ruleId" = right.member? "ruleId")
  listed_iff : ∀ ruleId, (∃ record ∈ rulesIn document, record.member? "id" = some (.text ruleId)) ↔
    (rules.meta? ruleId).isSome ∧
      ∃ emission ∈ sequence, emission.message.ruleId = some ruleId ∧ ruleId ≠ []

/-- A document without a table of rules, at which no result points. -/
structure ListsNoRules (document : Json) : Prop where
  records : (driverOf document).member? "rules" = some (.array [])
  unindexed : ∀ result ∈ resultsIn document, result.member? "ruleIndex" = none

/-! ## The table of a run -/

theorem filterMap_record (rules : RuleTable) (ruleIds : List Text) :
    (ruleIds.filterMap fun ruleId => (rules.meta? ruleId).map (ruleRecord ruleId)) =
      (ruleIds.filter fun ruleId => (rules.meta? ruleId).isSome).map fun ruleId =>
        (describe rules ruleId).toJson := by
  induction ruleIds with
  | nil => rfl
  | cons ruleId ruleIds inductionHypothesis =>
      cases known : rules.meta? ruleId with
      | none => simp [known, inductionHypothesis]
      | some described => simp [known, inductionHypothesis, ruleRecord, describe]

/-- The results of a run have the rule ids of its messages. -/
theorem ruleIds_of_results {options : Options} {tables : Tables} {sequence : List Emission}
    {entries : List Entry}
    (made : List.Forall₂ (fun emission entry => entryOf options tables emission = .ok entry)
      sequence entries) :
    (entries.filterMap Entry.result?).map Result.ruleId =
      sequence.filterMap fun emission => properRuleId emission.message := by
  induction made with
  | nil => rfl
  | cons first _ inductionHypothesis =>
      rcases entryAt_cases first with
        ⟨unnamed, prints, _, isEntry⟩ | ⟨ruleId, prints, named, _, isEntry⟩
      · rw [isEntry, List.filterMap_cons, List.filterMap_cons, unnamed]
        exact inductionHypothesis
      · rw [isEntry, List.filterMap_cons, List.filterMap_cons, named]
        exact congrArg (ruleId :: ·) inductionHypothesis

/-- A result of a run points at its rule in the table of the run. -/
theorem ruleIndex_of_result {options : Options} {tables : Tables} {sequence : List Emission}
    {entries : List Entry}
    (made : List.Forall₂ (fun emission entry => entryOf options tables emission = .ok entry)
      sequence entries)
    {result : Result} (member : result ∈ entries.filterMap Entry.result?) :
    result.ruleIndex = tables.ruleIds.idxOf? result.ruleId := by
  obtain ⟨emission, _, isMade⟩ := exists_of_forall₂_right made (mem_filterMap_result?.1 member)
  rcases entryAt_cases isMade with ⟨_, prints, _, isEntry⟩ | ⟨ruleId, prints, named, _, isEntry⟩
  · cases isEntry
  · cases isEntry
    simp only [named, Option.bind_some]

/-- The listed rules are the rules of the messages that have metadata. -/
theorem ruleIds_of_indexed {options : Options} (rules : RuleTable) (sequence : List Emission)
    (indexed : options.indexRules = true) :
    (Tables.of options rules sequence).ruleIds =
      (sequence.filterMap fun emission => properRuleId emission.message).eraseDups.filter
        fun ruleId => (rules.meta? ruleId).isSome := by
  rw [← eraseDups_filter, List.filter_filterMap]
  unfold Tables.of
  refine congrArg List.eraseDups (List.filterMap_congr fun emission _ => ?_)
  unfold Emission.listedRule?
  rw [if_pos indexed]

theorem mem_ruleIds_iff {options : Options} (rules : RuleTable) (sequence : List Emission)
    (indexed : options.indexRules = true) (ruleId : Text) :
    ruleId ∈ (Tables.of options rules sequence).ruleIds ↔
      (rules.meta? ruleId).isSome ∧
        ∃ emission ∈ sequence, emission.message.ruleId = some ruleId ∧ ruleId ≠ [] := by
  rw [ruleIds_of_indexed rules sequence indexed, List.mem_filter, List.mem_eraseDups,
    List.mem_filterMap, and_comm]
  simp only [properRuleId_eq_some_iff]

/-! ## The rules of a document -/

theorem rulesIn_logOf (options : Options) (rules : RuleTable) (tables : Tables)
    (entries : List Entry) :
    rulesIn (logOf options rules tables entries).toJson =
      tables.ruleIds.map fun ruleId => (describe rules ruleId).toJson := by
  rw [rulesIn_toJson, logOf, List.map_map]
  rfl

/-- A result in the document of a run shows the rule of a message that was taken in, and the place
of that rule in the table if it has one. -/
theorem result_of_mem_resultsIn {options : Options} {rules : RuleTable} {tables : Tables}
    {sequence : List Emission} {entries : List Entry}
    (made : List.Forall₂ (fun emission entry => entryOf options tables emission = .ok entry)
      sequence entries)
    {written : Json} (isShown : written ∈ resultsIn (logOf options rules tables entries).toJson) :
    ∃ ruleId, written.member? "ruleId" = some (.text ruleId) ∧
      written.member? "ruleIndex" = (tables.ruleIds.idxOf? ruleId).map natValue ∧
      ∃ emission ∈ sequence, emission.message.ruleId = some ruleId ∧ ruleId ≠ [] := by
  rw [resultsIn_toJson] at isShown
  obtain ⟨result, member, isWritten⟩ := List.mem_map.1 isShown
  have isRuleId : result.ruleId ∈ (entries.filterMap Entry.result?).map Result.ruleId :=
    List.mem_map_of_mem member
  rw [ruleIds_of_results made, List.mem_filterMap] at isRuleId
  simp only [properRuleId_eq_some_iff] at isRuleId
  refine ⟨result.ruleId, ?_, ?_, isRuleId⟩
  · rw [← isWritten, member?_ruleId_result]
  · rw [← isWritten, member?_ruleIndex_result, ruleIndex_of_result made member]

/-- Of rules that have a place, the places are equal just when the rules are. -/
theorem shownPlace_eq_iff {ruleIds : List Text} {left right : Text}
    (leftListed : (ruleIds.idxOf? left).isSome) (rightListed : (ruleIds.idxOf? right).isSome) :
    (ruleIds.idxOf? left).map natValue = (ruleIds.idxOf? right).map natValue ↔ left = right := by
  obtain ⟨leftIndex, foundLeft⟩ := Option.isSome_iff_exists.1 leftListed
  obtain ⟨rightIndex, foundRight⟩ := Option.isSome_iff_exists.1 rightListed
  constructor
  · intro samePlace
    have sameNumber : (leftIndex : Int) = rightIndex := by
      simpa [foundLeft, foundRight, natValue] using samePlace
    rw [Int.ofNat_inj.1 sameNumber] at foundLeft
    exact eq_of_idxOf?_eq foundLeft foundRight
  · intro same
    rw [same]

/-- A document whose results point at their rules in a table that holds each rule once. -/
theorem listsRules_of_table {options : Options} {rules : RuleTable} {sequence : List Emission}
    {entries : List Entry} (indexed : options.indexRules = true)
    (made : List.Forall₂ (fun emission entry =>
      entryOf options (Tables.of options rules sequence) emission = .ok entry) sequence entries) :
    ListsRules rules sequence
      (logOf options rules (Tables.of options rules sequence) entries).toJson := by
  refine {
    records := ?records
    nodup := ?nodup
    indexed_iff := ?indexed_iff
    located := ?located
    same_iff := ?same_iff
    listed_iff := ?listed_iff }
  case records =>
    rw [rulesIn_logOf, filterMap_record, ruleIdsIn_toJson, logOf, ruleIds_of_results made,
      ← ruleIds_of_indexed rules sequence indexed]
  case nodup =>
    rw [rulesIn_logOf, List.map_map]
    refine List.Nodup.map ?_ (nodup_eraseDups _)
    intro left right equal
    simpa using equal
  case indexed_iff =>
    intro written isShown
    obtain ⟨ruleId, isRuleId, isIndex, isTaken⟩ := result_of_mem_resultsIn made isShown
    refine ⟨ruleId, isRuleId, ?_⟩
    rw [isIndex, Option.isSome_map, List.isSome_idxOf?, mem_ruleIds_iff rules sequence indexed]
    exact and_iff_left isTaken
  case located =>
    intro written isShown shown shows
    obtain ⟨ruleId, isRuleId, isIndex, _⟩ := result_of_mem_resultsIn made isShown
    rw [isIndex] at shows
    obtain ⟨index, found, isShownIndex⟩ := Option.map_eq_some_iff.1 shows
    refine ⟨index, (describe rules ruleId).toJson, isShownIndex.symm, ?_, ?_⟩
    · rw [rulesIn_logOf, List.getElem?_map, getElem?_of_idxOf? found]
      rfl
    · rw [isRuleId, member?_id_descriptor, describe_id]
  case same_iff =>
    intro left leftShown right rightShown leftIndexed rightIndexed
    obtain ⟨leftId, isLeftId, isLeftIndex, _⟩ := result_of_mem_resultsIn made leftShown
    obtain ⟨rightId, isRightId, isRightIndex, _⟩ := result_of_mem_resultsIn made rightShown
    rw [isLeftIndex, Option.isSome_map] at leftIndexed
    rw [isRightIndex, Option.isSome_map] at rightIndexed
    rw [isLeftIndex, isRightIndex, isLeftId, isRightId, shownPlace_eq_iff leftIndexed rightIndexed]
    simp
  case listed_iff =>
    intro ruleId
    rw [rulesIn_logOf, ← mem_ruleIds_iff rules sequence indexed]
    simp

/-- **The rules of a document are those of its results that have metadata.**  They are listed once
each in the order of their first results, and every result of such a rule points at it.  A run that
lists no rules has an empty table and no result that points at one. -/
theorem rules_of_results {options : Options} {rules : RuleTable} {files : List FileResult}
    {log : Log} (built : Log.ofResults options rules files = .ok log) :
    (options.indexRules = true → ListsRules rules (emissions options files) log.toJson) ∧
      (options.indexRules = false → ListsNoRules log.toJson) := by
  obtain ⟨entries, made, isLog⟩ := ofResults_eq_ok_iff.1 built
  rw [← isLog]
  refine ⟨fun indexed => listsRules_of_table indexed made, fun unindexed => ?_⟩
  have noRules : (Tables.of options rules (emissions options files)).ruleIds = [] := by
    rw [Tables.of, Draft.filterMap_listedRule?_of_unindexed rules _ unindexed, List.eraseDups_nil]
  constructor
  case records =>
    unfold driverOf
    rw [runOf_toJson]
    simp [logOf, noRules, Log.runToJson, Driver.toJson, Entries.find?_append]
  case unindexed =>
    intro written isShown
    rw [resultsIn_toJson] at isShown
    obtain ⟨result, member, isWritten⟩ := List.mem_map.1 isShown
    rw [← isWritten, member?_ruleIndex_result, ruleIndex_of_result made member, noRules]
    rfl

theorem rules_of_results_sample :
    ∃ log, Log.ofResults sampleOptions sampleRules sampleFiles = .ok log ∧
      ListsRules sampleRules (emissions sampleOptions sampleFiles) log.toJson := by
  obtain ⟨log, built⟩ := sample_succeeds
  exact ⟨log, built, (rules_of_results built).1 rfl⟩

end Findings.Sarif
