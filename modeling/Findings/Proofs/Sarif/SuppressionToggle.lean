import Findings.Proofs.Sarif.Resolved
import Mathlib.Data.List.Flatten

/-!
Contract: runs with and without suppressed messages.

Owns:
- `placeless`, an entry without its places in the tables and without its suppressions;
- `IsPartOf`, what a document has to do with another one that tells of more messages;
- `ignoring_suppressed`: ignoring suppressed messages is as good as having none, and the run that
  ignores them tells a part of what the other run tells.

All places in the tables move when messages are left out, and the messages of a file lose their
suppressions as soon as its suppressed messages are not taken in.  An entry is the same in both runs
once these are erased.
-/

set_option autoImplicit false

namespace Findings

/-- A file without its suppressed messages. -/
def Lint.FileResult.withoutSuppressed (file : Lint.FileResult) : Lint.FileResult :=
  { file with suppressedMessages := [] }

namespace Sarif

open Findings.Lint Findings.FirstAppearance

/-! ## Leaving members out -/

/-- Members without those under a name. -/
def membersBut (name : String) (members : List (Text × Json)) : List (Text × Json) :=
  members.filter fun entry => entry.1 ≠ Text.ofString name

/-- An object without the members under a name. -/
def without (name : String) : Json → Json
  | .object members => .object (membersBut name members)
  | value => value

section Removal

variable (name : String)

@[simp] theorem without_object (members : List (Text × Json)) :
    without name (.object members) = .object (membersBut name members) := rfl

@[simp] theorem membersBut_append (left right : List (Text × Json)) :
    membersBut name (left ++ right) = membersBut name left ++ membersBut name right :=
  List.filter_append ..

@[simp] theorem membersBut_member (label : String) (value : Json) :
    membersBut name (member label value) = if label = name then [] else member label value := by
  unfold membersBut member
  by_cases same : label = name
  · simp [same]
  · have different : Text.ofString label ≠ Text.ofString name := fun equal =>
      same (Text.ofString_inj.1 equal)
    simp [same, different]

@[simp] theorem membersBut_member? {α : Type} (label : String) (value : Option α)
    (encode : α → Json) :
    membersBut name (member? label value encode) =
      if label = name then [] else member? label value encode := by
  cases value with
  | none => simp [membersBut, member?]
  | some shown => exact membersBut_member name label (encode shown)

end Removal

/-! ## Entries without places -/

/-- An entry without the places of its file and of its rule and without its suppressions. -/
def placeless (entry : Json) : Json :=
  without "suppressions" (without "ruleIndex"
    (changedAt "locations" (changedItems (changedAt "physicalLocation"
      (changedAt "artifactLocation" (without "index")))) entry))

/-- The members of a finding in a file that is not said to have a place. -/
def Finding.placelessMembers (finding : Finding) : List (Text × Json) :=
  member "level" (.text finding.level.toText)
    ++ member "message" (messageText finding.text)
    ++ member "locations" (.array [.object (member "physicalLocation" (.object (
      member "artifactLocation" (.object (member "uri" (.text finding.location.uri)))
      ++ member? "region" finding.location.region Region.toJson)))])
    ++ member? "partialFingerprints" finding.fingerprints Fingerprints.toJson

theorem placeless_notification (finding : Finding) :
    placeless finding.toJson = .object (finding.placelessMembers
      ++ member "descriptor" (.object (member "id" (.text internalErrorId)))) := by
  simp [placeless, Finding.toJson, Finding.members, Finding.placelessMembers, Location.toJson]

theorem placeless_result (result : Result) :
    placeless result.toJson = .object (result.finding.placelessMembers
      ++ member "ruleId" (.text result.ruleId)) := by
  simp [placeless, Result.toJson, Finding.members, Finding.placelessMembers, Location.toJson]

/-- Two entries of one kind and level that differ at most in their places and suppressions. -/
inductive Entry.SamePlaceless : Entry → Entry → Prop where
  | result {first second : Result} (same : placeless first.toJson = placeless second.toJson) :
      SamePlaceless (.result first) (.result second)
  | notification {first second : Finding} (sameLevel : first.level = second.level)
      (same : placeless first.toJson = placeless second.toJson) :
      SamePlaceless (.notification first) (.notification second)

/-- What a message becomes depends on the tables and on the suppressed messages of its file in its
places and its suppressions only. -/
theorem exists_samePlaceless_of_entryAt {options : Options} {uri : Text} {index : Nat}
    {ruleIndex : Option Nat} {merged : Bool} {message : Message} {entry : Entry}
    (made : entryAt options uri index ruleIndex merged message = .ok entry) (ignore : Bool)
    (other : Nat) (otherRule : Option Nat) (otherMerged : Bool) :
    ∃ again, entryAt { options with ignoreSuppressed := ignore } uri other otherRule otherMerged
        message = .ok again ∧
      entry.SamePlaceless again := by
  -- Fingerprints do not depend on whether suppressed messages are ignored.
  have samePrints : Draft.fingerprintsOf { options with ignoreSuppressed := ignore } message uri =
      Draft.fingerprintsOf options message uri := rfl
  unfold entryAt
  rw [samePrints]
  rcases entryAt_cases made with
    ⟨unnamed, prints, isPrints, isEntry⟩ | ⟨ruleId, prints, named, arePrints, isEntry⟩
  · rw [isPrints, isEntry, ok_bind]
    simp only [unnamed]
    refine ⟨_, rfl, .notification rfl ?_⟩
    rw [placeless_notification, placeless_notification]
    rfl
  · obtain ⟨first, isFirst, areAll⟩ := bind_eq_ok_iff.1 arePrints
    rw [isFirst, isEntry, ok_bind]
    simp only [named, areAll, ok_bind]
    refine ⟨_, rfl, .result ?_⟩
    rw [placeless_result, placeless_result]
    rfl

theorem exists_samePlaceless_of_entryOf {options : Options} {tables : Tables} {emission : Emission}
    {entry : Entry} (made : entryOf options tables emission = .ok entry) (ignore : Bool)
    (others : Tables) :
    ∃ again, entryOf { options with ignoreSuppressed := ignore } others emission = .ok again ∧
      entry.SamePlaceless again :=
  exists_samePlaceless_of_entryAt made ignore ..

/-! ## Parts of a run -/

/-- The items of a sublist have their partners among the partners of the list, in order. -/
theorem exists_sublist_of_forall₂ {α β : Type} {R : α → β → Prop} {items part : List α}
    {partners : List β} (inside : part.Sublist items) (related : List.Forall₂ R items partners) :
    ∃ kept, kept.Sublist partners ∧ List.Forall₂ R part kept := by
  induction inside generalizing partners with
  | slnil => exact ⟨[], List.nil_sublist _, .nil⟩
  | cons item _ inductionHypothesis =>
      cases related with
      | cons _ rest =>
          obtain ⟨kept, isSublist, keptRelated⟩ := inductionHypothesis rest
          exact ⟨kept, isSublist.cons _, keptRelated⟩
  | cons_cons item _ inductionHypothesis =>
      cases related with
      | cons first rest =>
          obtain ⟨kept, isSublist, keptRelated⟩ := inductionHypothesis rest
          exact ⟨_ :: kept, isSublist.cons_cons _, .cons first keptRelated⟩

section Parts

variable {options : Options}

/-- Messages that have entries in one run have them in every run, the same but for their places. -/
theorem exists_samePlaceless_entries {tables : Tables} {sequence : List Emission}
    {entries : List Entry}
    (made : List.Forall₂ (fun emission entry => entryOf options tables emission = .ok entry)
      sequence entries) (ignore : Bool) (others : Tables) :
    ∃ again, List.Forall₂ (fun emission entry =>
        entryOf { options with ignoreSuppressed := ignore } others emission = .ok entry)
        sequence again ∧
      List.Forall₂ Entry.SamePlaceless entries again := by
  induction made with
  | nil => exact ⟨[], .nil, .nil⟩
  | cons first _ inductionHypothesis =>
      obtain ⟨entry, entryMade, sameEntry⟩ := exists_samePlaceless_of_entryOf first ignore others
      obtain ⟨again, othersMade, sameOthers⟩ := inductionHypothesis
      exact ⟨entry :: again, .cons entryMade othersMade, .cons sameEntry sameOthers⟩

theorem split_samePlaceless {entries others : List Entry}
    (same : List.Forall₂ Entry.SamePlaceless entries others) :
    List.Forall₂ (fun first second => placeless first.toJson = placeless second.toJson)
        (entries.filterMap Entry.result?) (others.filterMap Entry.result?) ∧
      List.Forall₂ (fun first second => first.level = second.level ∧
          placeless first.toJson = placeless second.toJson)
        (entries.filterMap Entry.notification?) (others.filterMap Entry.notification?) := by
  induction same with
  | nil => exact ⟨.nil, .nil⟩
  | cons first _ inductionHypothesis =>
      obtain ⟨results, notifications⟩ := inductionHypothesis
      cases first with
      | result same => exact ⟨.cons same results, notifications⟩
      | notification sameLevel same => exact ⟨results, .cons ⟨sameLevel, same⟩ notifications⟩

/-- Messages in fewer places list no other files and no other rules. -/
theorem tables_subset (rules : RuleTable) {part sequence : List Emission}
    (inside : part.Sublist sequence) :
    (Tables.of options rules part).uris ⊆ (Tables.of options rules sequence).uris ∧
      (Tables.of options rules part).ruleIds ⊆ (Tables.of options rules sequence).ruleIds := by
  constructor
  · intro uri listed
    rw [Tables.of, List.mem_eraseDups] at listed ⊢
    exact (inside.map _).subset listed
  · intro ruleId listed
    rw [Tables.of, List.mem_eraseDups] at listed ⊢
    exact (inside.filterMap _).subset listed

end Parts

/-- A document tells a part of what another one tells: its entries come in the same order among the
others once their places and suppressions are erased, it lists no other files and no other rules,
and it tells of no failure of its own. -/
structure IsPartOf (part whole : Json) : Prop where
  results : ((resultsIn part).map placeless).Sublist ((resultsIn whole).map placeless)
  notifications :
    ((notificationsIn part).map placeless).Sublist ((notificationsIn whole).map placeless)
  artifacts : artifactsIn part ⊆ artifactsIn whole
  rules : rulesIn part ⊆ rulesIn whole
  failed : successIn? part = some (.bool false) → successIn? whole = some (.bool false)

theorem isPartOf_logOf (options others : Options) (rules : RuleTable) {tables fewer : Tables}
    {entries kept again : List Entry} (uris : fewer.uris ⊆ tables.uris)
    (ruleIds : fewer.ruleIds ⊆ tables.ruleIds) (inside : kept.Sublist entries)
    (same : List.Forall₂ Entry.SamePlaceless kept again) :
    IsPartOf (logOf others rules fewer again).toJson
      (logOf options rules tables entries).toJson := by
  obtain ⟨sameResults, sameNotifications⟩ := split_samePlaceless same
  have notificationsInside := inside.filterMap Entry.notification?
  refine {
    results := ?results
    notifications := ?notifications
    artifacts := ?artifacts
    rules := ?rules
    failed := ?failed }
  case results =>
    have sameShown : (kept.filterMap Entry.result?).map (placeless ∘ Result.toJson) =
        (again.filterMap Entry.result?).map (placeless ∘ Result.toJson) :=
      map_eq_map_of_forall₂ sameResults
    rw [resultsIn_toJson, resultsIn_toJson, List.map_map, List.map_map]
    show ((again.filterMap Entry.result?).map _).Sublist ((entries.filterMap Entry.result?).map _)
    rw [← sameShown]
    exact (inside.filterMap Entry.result?).map _
  case notifications =>
    have sameShown : (kept.filterMap Entry.notification?).map (placeless ∘ Finding.toJson) =
        (again.filterMap Entry.notification?).map (placeless ∘ Finding.toJson) :=
      map_eq_map_of_forall₂ (sameNotifications.imp fun _ _ agree => agree.2)
    rw [notificationsIn_toJson, notificationsIn_toJson, List.map_map, List.map_map]
    show ((again.filterMap Entry.notification?).map _).Sublist
      ((entries.filterMap Entry.notification?).map _)
    rw [← sameShown]
    exact notificationsInside.map _
  case artifacts =>
    rw [artifactsIn_toJson, artifactsIn_toJson]
    exact List.map_subset _ (List.map_subset _ uris)
  case rules =>
    rw [rulesIn_toJson, rulesIn_toJson]
    exact List.map_subset _ (List.map_subset _ ruleIds)
  case failed =>
    rw [successIn?_eq_false_iff, successIn?_eq_false_iff]
    rintro ⟨notification, shown, isError⟩
    obtain ⟨original, isKept, sameLevel, _⟩ := exists_of_forall₂_right sameNotifications shown
    exact ⟨original, notificationsInside.subset isKept, sameLevel.trans isError⟩

/-! ## Ignoring suppressed messages -/

/-- A run that ignores suppressed messages takes in fewer messages, in the same order. -/
theorem emissions_sublist (options : Options) (files : List FileResult) :
    (emissions { options with ignoreSuppressed := true } files).Sublist
      (emissions { options with ignoreSuppressed := false } files) := by
  unfold emissions
  apply List.Sublist.flatMap_right
  intro file _
  apply List.Sublist.map
  unfold takenMessages
  exact (List.Sublist.refl file.messages).append (List.nil_sublist _)

/-- A file whose suppressed messages are ignored is added as a file without any. -/
theorem addFile_withoutSuppressed (options : Options) (rules : RuleTable) (draft : Draft)
    (file : FileResult) :
    Draft.addFile { options with ignoreSuppressed := true } rules draft file =
      Draft.addFile { options with ignoreSuppressed := false } rules draft
        file.withoutSuppressed := by
  have unmerged : Draft.mergesSuppressed { options with ignoreSuppressed := true } file = false := by
    simp [Draft.mergesSuppressed]
  unfold Draft.addFile Draft.messagesOf
  rw [unmerged]
  rfl

theorem ofResults_withoutSuppressed (options : Options) (rules : RuleTable)
    (files : List FileResult) :
    Log.ofResults { options with ignoreSuppressed := true } rules files =
      Log.ofResults { options with ignoreSuppressed := false } rules
        (files.map FileResult.withoutSuppressed) := by
  have sameSteps : Draft.addFile { options with ignoreSuppressed := true } rules =
      fun draft file => Draft.addFile { options with ignoreSuppressed := false } rules draft
        file.withoutSuppressed := by
    funext draft file
    exact addFile_withoutSuppressed options rules draft file
  unfold Log.ofResults
  rw [List.foldlM_map, sameSteps]
  rfl

/-- **Ignoring suppressed messages.**  A run that ignores them is the run over the same files without
any, log for log and fault for fault.  It succeeds where the run that takes them in does, and tells
a part of what that run tells. -/
theorem ignoring_suppressed (options : Options) (rules : RuleTable) (files : List FileResult) :
    Log.ofResults { options with ignoreSuppressed := true } rules files =
        Log.ofResults { options with ignoreSuppressed := false } rules
          (files.map FileResult.withoutSuppressed) ∧
      ∀ whole, Log.ofResults { options with ignoreSuppressed := false } rules files = .ok whole →
        ∃ part, Log.ofResults { options with ignoreSuppressed := true } rules files = .ok part ∧
          IsPartOf part.toJson whole.toJson := by
  refine ⟨ofResults_withoutSuppressed options rules files, ?_⟩
  intro whole built
  obtain ⟨entries, made, isWhole⟩ := ofResults_eq_ok_iff.1 built
  have inside := emissions_sublist options files
  obtain ⟨kept, keptInside, keptMade⟩ := exists_sublist_of_forall₂ inside made
  obtain ⟨again, againMade, same⟩ := exists_samePlaceless_entries keptMade true
    (Tables.of { options with ignoreSuppressed := true } rules
      (emissions { options with ignoreSuppressed := true } files))
  obtain ⟨uris, ruleIds⟩ := @tables_subset { options with ignoreSuppressed := true } rules _ _ inside
  refine ⟨_, ofResults_eq_ok_iff.2 ⟨again, againMade, rfl⟩, ?_⟩
  rw [← isWhole]
  exact isPartOf_logOf _ _ rules uris ruleIds keptInside same

/-- The small run without its suppressed message is a part of the small run. -/
theorem ignoring_suppressed_sample :
    ∃ whole part,
      Log.ofResults { sampleOptions with ignoreSuppressed := false } sampleRules sampleFiles =
        .ok whole ∧
      Log.ofResults { sampleOptions with ignoreSuppressed := true } sampleRules sampleFiles =
        .ok part ∧
      IsPartOf part.toJson whole.toJson := by
  obtain ⟨whole, built⟩ := sample_succeeds
  obtain ⟨part, partBuilt, isPart⟩ :=
    (ignoring_suppressed sampleOptions sampleRules sampleFiles).2 whole built
  exact ⟨whole, part, built, partBuilt, isPart⟩

end Sarif

end Findings
