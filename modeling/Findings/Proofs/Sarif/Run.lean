import Findings.Proofs.FirstAppearance
import Findings.Proofs.Sarif.Emission

/-!
Contract: what a run adds up to.

Owns:
- `Tables.of`, the files and the rules that a run lists: the different ones of its emissions, in the
  order in which they first appear;
- `entryOf`, the entry of a single emission once the tables are known;
- `ofResults_eq`, the run in one equation: its log has the tables and the entries of all emissions,
  and it fails with the first emission that has no entry.

The invariant of the fold is that the draft after some emissions is the draft of their own tables
and entries.  It is kept because a table only grows at its end, so places handed out earlier stay
right.
-/

set_option autoImplicit false

namespace Findings.Sarif

open Findings.Lint Findings.FirstAppearance

/-! ## Tables and entries of a sequence of emissions -/

/-- The rule of a message if the run lists it: rules are listed at all, and this one has
metadata. -/
def Emission.listedRule? (options : Options) (rules : RuleTable) (emission : Emission) :
    Option Text :=
  if options.indexRules then
    (properRuleId emission.message).filter fun ruleId => (rules.meta? ruleId).isSome
  else none

/-- The locations of files and the rule ids that a run lists. -/
structure Tables where
  uris : List Text
  ruleIds : List Text

def Tables.of (options : Options) (rules : RuleTable) (sequence : List Emission) : Tables where
  uris := (sequence.map (Emission.uri options)).eraseDups
  ruleIds := (sequence.filterMap (Emission.listedRule? options rules)).eraseDups

/-- The descriptor of a listed rule. -/
def describe (rules : RuleTable) (ruleId : Text) : RuleDescriptor :=
  descriptorOf ruleId ((rules.meta? ruleId).getD {})

/-- The entry of an emission in a run with given tables. -/
def entryOf (options : Options) (tables : Tables) (emission : Emission) :
    Except Text.EncodeFault Entry :=
  entryAt options (emission.uri options) (tables.uris.idxOf (emission.uri options))
    ((properRuleId emission.message).bind fun ruleId => tables.ruleIds.idxOf? ruleId)
    (Draft.mergesSuppressed options emission.file) emission.message

/-- The draft with given tables and entries. -/
def draftOf (rules : RuleTable) (tables : Tables) (entries : List Entry) : Draft where
  artifacts := (tables.uris.map Artifact.mk).toArray
  rules := (tables.ruleIds.map (describe rules)).toArray
  results := (entries.filterMap Entry.result?).toArray
  notifications := (entries.filterMap Entry.notification?).toArray

/-- The log with given tables and entries. -/
def logOf (options : Options) (rules : RuleTable) (tables : Tables) (entries : List Entry) :
    Log where
  driver := {
    name := options.toolName
    version := options.toolVersion
    informationUri := options.informationUri
    rules := tables.ruleIds.map (describe rules) }
  artifacts := tables.uris.map Artifact.mk
  results := entries.filterMap Entry.result?
  notifications := entries.filterMap Entry.notification?

@[simp] theorem descriptorOf_id (ruleId : Text) (known : RuleMeta) :
    (descriptorOf ruleId known).id = ruleId := by
  unfold descriptorOf
  split <;> rfl

@[simp] theorem describe_id (rules : RuleTable) (ruleId : Text) :
    (describe rules ruleId).id = ruleId :=
  descriptorOf_id _ _

/-! ## Looking up -/

theorem findIdx?_artifacts (uris : List Text) (uri : Text) :
    ((uris.map Artifact.mk).toArray.findIdx? fun artifact => artifact.uri = uri) =
      uris.idxOf? uri := by
  rw [List.findIdx?_toArray, List.findIdx?_map]
  exact findIdx?_eq_idxOf? uris uri

theorem findIdx?_descriptors (rules : RuleTable) (ruleIds : List Text) (ruleId : Text) :
    ((ruleIds.map (describe rules)).toArray.findIdx? fun rule => rule.id = ruleId) =
      ruleIds.idxOf? ruleId := by
  rw [List.findIdx?_toArray, List.findIdx?_map]
  simp only [Function.comp_def, describe_id]
  exact findIdx?_eq_idxOf? ruleIds ruleId

/-! ## One more emission -/

namespace Draft

/-- Looking up a file in a table of first appearances takes the file into the table. -/
theorem addArtifact_eq {draft : Draft} {uris : List Text} (uri : Text)
    (table : draft.artifacts = (uris.eraseDups.map Artifact.mk).toArray) :
    draft.addArtifact uri =
      ({ draft with artifacts := ((uris ++ [uri]).eraseDups.map Artifact.mk).toArray },
        (uris ++ [uri]).eraseDups.idxOf uri) := by
  unfold addArtifact
  rw [table, findIdx?_artifacts, eraseDups_concat]
  by_cases known : uri ∈ uris
  · rw [idxOf?_of_mem (List.mem_eraseDups.2 known), if_pos known, ← table]
  · have absent : uri ∉ uris.eraseDups := by rwa [List.mem_eraseDups]
    rw [List.idxOf?_eq_none_iff.2 absent, if_neg known, List.idxOf_append, if_neg absent]
    simp

/-- Looking up a rule in a table of first appearances takes the rule into the table if it has
metadata. -/
theorem addRule_eq {draft : Draft} {rules : RuleTable} {ruleIds : List Text} (ruleId : Text)
    (table : draft.rules = (ruleIds.eraseDups.map (describe rules)).toArray)
    (listed : ∀ other ∈ ruleIds, (rules.meta? other).isSome) :
    draft.addRule rules ruleId =
      let extended := (ruleIds ++ if (rules.meta? ruleId).isSome then [ruleId] else []).eraseDups
      ({ draft with rules := (extended.map (describe rules)).toArray },
        extended.idxOf? ruleId) := by
  unfold addRule
  rw [table, findIdx?_descriptors]
  by_cases known : ruleId ∈ ruleIds
  · have described := listed ruleId known
    rw [idxOf?_of_mem (List.mem_eraseDups.2 known), if_pos described, eraseDups_concat,
      if_pos known]
    simp only [idxOf?_of_mem (List.mem_eraseDups.2 known)]
    rw [← table]
  · have absent : ruleId ∉ ruleIds.eraseDups := by rwa [List.mem_eraseDups]
    rw [List.idxOf?_eq_none_iff.2 absent]
    cases described : rules.meta? ruleId with
    | none =>
        simp only [Option.isSome_none, Bool.false_eq_true, if_false, List.append_nil,
          List.idxOf?_eq_none_iff.2 absent, ← table]
    | some known =>
        have isDescription : describe rules ruleId = descriptorOf ruleId known := by
          unfold describe
          rw [described, Option.getD_some]
        simp only [Option.isSome_some, if_true, eraseDups_concat, if_neg ‹ruleId ∉ ruleIds›]
        rw [idxOf?_of_mem (by simp), List.idxOf_append, if_neg absent]
        simp [isDescription]

/-- What is listed has metadata. -/
theorem listedRule?_isSome {options : Options} {rules : RuleTable} {sequence : List Emission}
    {ruleId : Text} (listed : ruleId ∈ sequence.filterMap (Emission.listedRule? options rules)) :
    (rules.meta? ruleId).isSome := by
  obtain ⟨emission, _, isListed⟩ := List.mem_filterMap.1 listed
  unfold Emission.listedRule? at isListed
  split at isListed
  · exact (Option.filter_eq_some_iff.1 isListed).2
  · cases isListed

theorem filterMap_listedRule?_of_unindexed {options : Options} (rules : RuleTable)
    (sequence : List Emission) (unindexed : options.indexRules = false) :
    sequence.filterMap (Emission.listedRule? options rules) = [] := by
  rw [List.filterMap_eq_nil_iff]
  intro emission _
  unfold Emission.listedRule?
  rw [unindexed]
  rfl

/-- Listing the rule of one more emission extends the table of rules by it. -/
theorem noteRule_eq (options : Options) (rules : RuleTable) (sequence : List Emission)
    (emission : Emission) {draft : Draft}
    (table : draft.rules =
      ((Tables.of options rules sequence).ruleIds.map (describe rules)).toArray) :
    draft.noteRule options rules emission.message =
      ({ draft with rules :=
          ((Tables.of options rules (sequence ++ [emission])).ruleIds.map
            (describe rules)).toArray },
        (properRuleId emission.message).bind fun ruleId =>
          (Tables.of options rules (sequence ++ [emission])).ruleIds.idxOf? ruleId) := by
  unfold noteRule
  simp only [Tables.of, List.filterMap_append] at table ⊢
  cases named : properRuleId emission.message with
  | none =>
      have unlisted : emission.listedRule? options rules = none := by
        simp [Emission.listedRule?, named]
      simp only [List.filterMap_cons, unlisted, List.filterMap_nil, List.append_nil,
        Option.bind_none]
      rw [← table]
  | some ruleId =>
      cases indexed : options.indexRules with
      | false =>
          rw [filterMap_listedRule?_of_unindexed rules sequence indexed] at table
          rw [filterMap_listedRule?_of_unindexed rules sequence indexed,
            filterMap_listedRule?_of_unindexed rules [emission] indexed, List.append_nil, ← table]
          rfl
      | true =>
          have isListed : [emission].filterMap (Emission.listedRule? options rules) =
              if (rules.meta? ruleId).isSome then [ruleId] else [] := by
            cases described : (rules.meta? ruleId).isSome <;>
              simp [Emission.listedRule?, indexed, named, Option.filter, described]
          simp only [if_true, Option.bind_some, isListed]
          exact addRule_eq ruleId table fun other listed => listedRule?_isSome listed

theorem draftOf_put (rules : RuleTable) (tables : Tables) (entries : List Entry) (entry : Entry) :
    (draftOf rules tables entries).put entry = draftOf rules tables (entries ++ [entry]) := by
  cases entry <;> simp [put, draftOf, Entry.result?, Entry.notification?]

/-- **One more emission.**  The draft of a sequence goes over into the draft of the longer
sequence. -/
theorem addEmission_draftOf (options : Options) (rules : RuleTable) (sequence : List Emission)
    (entries : List Entry) (emission : Emission) :
    addEmission options rules (draftOf rules (Tables.of options rules sequence) entries) emission =
      (entryOf options (Tables.of options rules (sequence ++ [emission])) emission).map
        fun entry => draftOf rules (Tables.of options rules (sequence ++ [emission]))
          (entries ++ [entry]) := by
  have extended : (sequence ++ [emission]).map (Emission.uri options) =
      sequence.map (Emission.uri options) ++ [emission.uri options] := by
    rw [List.map_append, List.map_singleton]
  have table : (draftOf rules (Tables.of options rules sequence) entries).artifacts =
      ((sequence.map (Emission.uri options)).eraseDups.map Artifact.mk).toArray := rfl
  unfold addEmission entryOf
  rw [addMessage_eq, addArtifact_eq _ table, ← extended]
  rw [noteRule_eq options rules sequence emission rfl]
  congr 1
  funext entry
  rw [← draftOf_put]
  rfl

end Draft

/-! ## The whole run -/

/-- An emission keeps its entry when the sequence grows behind it. -/
theorem entryOf_append (options : Options) (rules : RuleTable) (sequence more : List Emission)
    {emission : Emission} (member : emission ∈ sequence) :
    entryOf options (Tables.of options rules (sequence ++ more)) emission =
      entryOf options (Tables.of options rules sequence) emission := by
  have samePlace : (Tables.of options rules (sequence ++ more)).uris.idxOf (emission.uri options) =
      (Tables.of options rules sequence).uris.idxOf (emission.uri options) := by
    simp only [Tables.of, List.map_append]
    exact idxOf_eraseDups_append _ _ (List.mem_map_of_mem member)
  have sameRule : ∀ ruleId, properRuleId emission.message = some ruleId →
      (Tables.of options rules (sequence ++ more)).ruleIds.idxOf? ruleId =
        (Tables.of options rules sequence).ruleIds.idxOf? ruleId := by
    intro ruleId named
    simp only [Tables.of, List.filterMap_append]
    apply idxOf?_eraseDups_append
    intro listedLater
    -- A rule that is listed for a later emission is listed for this one already.
    obtain ⟨later, _, listed⟩ := List.mem_filterMap.1 listedLater
    refine List.mem_filterMap.2 ⟨emission, member, ?_⟩
    unfold Emission.listedRule? at listed ⊢
    split at listed
    · rename_i indexed
      rw [if_pos indexed, named]
      exact Option.filter_eq_some_iff.2 ⟨rfl, (Option.filter_eq_some_iff.1 listed).2⟩
    · cases listed
  unfold entryOf
  rw [samePlace]
  congr 1
  cases named : properRuleId emission.message with
  | none => rfl
  | some ruleId => exact sameRule ruleId named

/-- **The fold in one equation.** -/
theorem foldlM_addEmission (options : Options) (rules : RuleTable) (sequence : List Emission) :
    sequence.foldlM (Draft.addEmission options rules) {} =
      (sequence.mapM (entryOf options (Tables.of options rules sequence))).map
        (draftOf rules (Tables.of options rules sequence)) := by
  induction sequence using List.reverseRecOn with
  | nil => rfl
  | append_singleton sequence emission inductionHypothesis =>
      have sameEntries :
          sequence.mapM (entryOf options (Tables.of options rules (sequence ++ [emission]))) =
            sequence.mapM (entryOf options (Tables.of options rules sequence)) :=
        mapM_congr fun other member => entryOf_append options rules sequence [emission] member
      rw [List.foldlM_append, inductionHypothesis, List.mapM_append, sameEntries]
      cases sequence.mapM (entryOf options (Tables.of options rules sequence)) with
      | error fault => rfl
      | ok entries =>
          rw [ok_map, ok_bind, ok_bind, List.foldlM_cons, Draft.addEmission_draftOf,
            List.mapM_cons]
          cases entryOf options (Tables.of options rules (sequence ++ [emission])) emission with
          | error fault => rfl
          | ok entry => rfl

/-- **The run in one equation.**  The log of a run has the tables of its emissions and the entries
of all of them; the run fails with the first emission that has no entry. -/
theorem ofResults_eq (options : Options) (rules : RuleTable) (files : List FileResult) :
    Log.ofResults options rules files =
      ((emissions options files).mapM
        (entryOf options (Tables.of options rules (emissions options files)))).map
          (logOf options rules (Tables.of options rules (emissions options files))) := by
  unfold Log.ofResults
  rw [Draft.foldlM_addFile, foldlM_addEmission]
  cases (emissions options files).mapM
      (entryOf options (Tables.of options rules (emissions options files))) with
  | error fault => rfl
  | ok entries => rfl

/-- A run that succeeds has an entry for every emission, in order, and its log shows them. -/
theorem ofResults_eq_ok_iff {options : Options} {rules : RuleTable} {files : List FileResult}
    {log : Log} :
    Log.ofResults options rules files = .ok log ↔
      ∃ entries, List.Forall₂
          (fun emission entry =>
            entryOf options (Tables.of options rules (emissions options files)) emission =
              .ok entry)
          (emissions options files) entries ∧
        logOf options rules (Tables.of options rules (emissions options files)) entries = log := by
  rw [ofResults_eq, map_eq_ok_iff]
  simp only [mapM_eq_ok_iff]

/-- The results of a run are the entries of the messages that name a rule, and its notifications are
those of the others, both in order. -/
theorem split_entryOf {options : Options} {tables : Tables} {sequence : List Emission}
    {entries : List Entry}
    (made : List.Forall₂ (fun emission entry => entryOf options tables emission = .ok entry)
      sequence entries) :
    List.Forall₂ (fun emission result => entryOf options tables emission = .ok (.result result))
        (sequence.filter fun emission => emission.IsRuled) (entries.filterMap Entry.result?) ∧
      List.Forall₂
        (fun emission finding => entryOf options tables emission = .ok (.notification finding))
        (sequence.filter fun emission => ¬ emission.IsRuled)
        (entries.filterMap Entry.notification?) := by
  apply forall₂_split _ made
  intro emission entry isMade
  rcases entryAt_cases isMade with ⟨unnamed, prints, -, rfl⟩ | ⟨ruleId, prints, named, -, rfl⟩
  · exact iff_of_false Bool.false_ne_true ((properRuleId_eq_none_iff emission).1 unnamed)
  · exact iff_of_true rfl ⟨ruleId, (properRuleId_eq_some_iff _ _).1 named⟩

/-! ## A small run -/

/-- The options of a small run. -/
def sampleOptions : Options where
  baseFolder := "/repo"
  fingerprints := false

/-- A rule with metadata and one that is listed without. -/
def sampleRules : RuleTable :=
  [("semi", some { docs := some { description := some "End every statement." } }), ("curly", none)]

/-- A file with messages of both kinds, one without any, and the first one in another spelling. -/
def sampleFiles : List FileResult := [
  { path := "/repo/a.js"
    messages := [
      { text := "first", ruleId := some "semi", line := some 3, endLine := some 4 },
      { text := "second", ruleId := some [], severity := 2 }]
    suppressedMessages := [
      { text := "third", ruleId := some "curly", source := some "if"
        suppressions := some [{ kind := "directive" }] }] },
  { path := "/repo/b.js" },
  { path := "\\repo\\.\\a.js"
    messages := [{ text := "fourth", ruleId := some "semi", fatal := true, endLine := some 1 }] }]

theorem sample_succeeds : ∃ log, Log.ofResults sampleOptions sampleRules sampleFiles = .ok log :=
  ⟨_, rfl⟩

end Findings.Sarif
