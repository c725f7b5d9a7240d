import Findings.Proofs.Except
import Findings.Sarif.Draft

/-!
Contract: the messages that a run takes in, one by one.

Owns:
- `emissions`, the sequence of all messages that a run takes in, each with its file: the files in
  order, and of a file its messages and then its suppressed ones unless those are ignored;
- the run as one fold over that sequence (`foldlM_addFile`), in which every message looks up its own
  file among the artifacts.

Does not own: what the fold adds up to (`Findings.Proofs.Sarif.Run`).
-/

set_option autoImplicit false

namespace Findings.Sarif

open Findings.Lint

/-- A message that a run takes in, with the file it belongs to. -/
structure Emission where
  file : FileResult
  message : Message

namespace Emission

/-- The location of the file under the options of a run. -/
def uri (options : Options) (emission : Emission) : Text :=
  relativeUri emission.file.path options.baseFolder

/-- The suppressed messages of the file are taken in as well. -/
def IsMerged (options : Options) (emission : Emission) : Prop :=
  emission.file.suppressedMessages ≠ [] ∧ options.ignoreSuppressed = false

/-- The message names a rule. -/
def IsRuled (emission : Emission) : Prop :=
  ∃ ruleId, emission.message.ruleId = some ruleId ∧ ruleId ≠ []

instance (options : Options) (emission : Emission) : Decidable (emission.IsMerged options) := by
  unfold IsMerged
  infer_instance

instance (emission : Emission) : Decidable emission.IsRuled :=
  match ruled : emission.message.ruleId with
  | none => isFalse fun ⟨ruleId, named, _⟩ => by rw [ruled] at named; cases named
  | some ruleId =>
      if empty : ruleId = [] then
        isFalse fun ⟨other, named, nonempty⟩ => by
          rw [ruled] at named
          cases named
          exact nonempty empty
      else isTrue ⟨ruleId, ruled, empty⟩

end Emission

/-- The messages of a file that a run takes in. -/
def takenMessages (options : Options) (file : FileResult) : List Message :=
  file.messages ++ if options.ignoreSuppressed then [] else file.suppressedMessages

/-- All messages that a run takes in, in the order in which it takes them in. -/
def emissions (options : Options) (files : List FileResult) : List Emission :=
  files.flatMap fun file => (takenMessages options file).map (Emission.mk file)

theorem mergesSuppressed_eq_true_iff (options : Options) (emission : Emission) :
    Draft.mergesSuppressed options emission.file = true ↔ emission.IsMerged options := by
  simp [Draft.mergesSuppressed, Emission.IsMerged]

theorem messagesOf_eq_takenMessages (options : Options) (file : FileResult) :
    Draft.messagesOf options file = takenMessages options file := by
  unfold Draft.messagesOf Draft.mergesSuppressed takenMessages
  cases options.ignoreSuppressed with
  | true => simp
  | false =>
      cases file.suppressedMessages with
      | nil => simp
      | cons first rest => simp

theorem properRuleId_eq_some_iff (message : Message) (ruleId : Text) :
    properRuleId message = some ruleId ↔ message.ruleId = some ruleId ∧ ruleId ≠ [] := by
  simp [properRuleId, Option.filter_eq_some_iff]

theorem properRuleId_eq_none_iff (emission : Emission) :
    properRuleId emission.message = none ↔ ¬ emission.IsRuled := by
  constructor
  · intro unnamed
    rintro ⟨ruleId, ruled⟩
    rw [← properRuleId_eq_some_iff, unnamed] at ruled
    cases ruled
  · intro unruled
    cases named : properRuleId emission.message with
    | none => rfl
    | some ruleId => exact absurd ⟨ruleId, (properRuleId_eq_some_iff _ _).1 named⟩ unruled

/-! ## What a message becomes -/

/-- A message becomes a result or a notification. -/
inductive Entry where
  | result (result : Result)
  | notification (finding : Finding)

/-- The result of an entry. -/
def Entry.result? : Entry → Option Result
  | .result reported => some reported
  | .notification .. => none

/-- The notification of an entry. -/
def Entry.notification? : Entry → Option Finding
  | .result .. => none
  | .notification finding => some finding

theorem mem_filterMap_result? {entries : List Entry} {result : Result} :
    result ∈ entries.filterMap Entry.result? ↔ .result result ∈ entries := by
  rw [List.mem_filterMap]
  constructor
  · rintro ⟨entry, member, isResult⟩
    cases entry with
    | result =>
        cases isResult
        exact member
    | notification => cases isResult
  · intro member
    exact ⟨_, member, rfl⟩

theorem mem_filterMap_notification? {entries : List Entry} {finding : Finding} :
    finding ∈ entries.filterMap Entry.notification? ↔ .notification finding ∈ entries := by
  rw [List.mem_filterMap]
  constructor
  · rintro ⟨entry, member, isFinding⟩
    cases entry with
    | result => cases isFinding
    | notification =>
        cases isFinding
        exact member
  · intro member
    exact ⟨_, member, rfl⟩

/-- Emissions and entries that are related one by one stay so when both are split: into emissions
that name a rule beside results, and the others beside notifications. -/
theorem forall₂_split {R : Emission → Entry → Prop} {sequence : List Emission}
    {entries : List Entry}
    (isKind : ∀ emission entry, R emission entry → (entry.result?.isSome ↔ emission.IsRuled))
    (related : List.Forall₂ R sequence entries) :
    List.Forall₂ (fun emission result => R emission (.result result))
        (sequence.filter fun emission => emission.IsRuled) (entries.filterMap Entry.result?) ∧
      List.Forall₂ (fun emission finding => R emission (.notification finding))
        (sequence.filter fun emission => ¬ emission.IsRuled)
        (entries.filterMap Entry.notification?) := by
  induction related with
  | nil => exact ⟨.nil, .nil⟩
  | @cons emission entry sequence entries first _ inductionHypothesis =>
      obtain ⟨results, notifications⟩ := inductionHypothesis
      have kind := isKind emission entry first
      cases entry with
      | result result =>
          have ruled : emission.IsRuled := kind.1 rfl
          simp only [List.filter_cons, ruled, decide_true, not_true_eq_false, decide_false, if_true,
            Bool.false_eq_true, if_false, List.filterMap_cons, Entry.result?, Entry.notification?]
          exact ⟨.cons first results, notifications⟩
      | notification finding =>
          have unruled : ¬ emission.IsRuled := fun ruled => Bool.noConfusion (kind.2 ruled)
          simp only [List.filter_cons, unruled, decide_true, not_false_eq_true, decide_false,
            if_true, Bool.false_eq_true, if_false, List.filterMap_cons, Entry.result?,
            Entry.notification?]
          exact ⟨results, .cons first notifications⟩

/-- The entry of a message once its places among the artifacts and the rules are known. -/
def entryAt (options : Options) (uri : Text) (index : Nat) (ruleIndex : Option Nat)
    (merged : Bool) (message : Message) : Except Text.EncodeFault Entry := do
  let prints ← Draft.fingerprintsOf options message uri
  let finding : Finding := {
    level := levelOf message
    text := message.text
    location := { uri := uri, index := index, region := regionOf message }
    fingerprints := prints }
  match properRuleId message with
  | none => return .notification finding
  | some ruleId =>
      let prints ← Draft.withRuleFingerprint ruleId prints
      return .result {
        finding := { finding with fingerprints := prints }
        ruleId := ruleId
        ruleIndex := ruleIndex
        suppressions :=
          if merged then some ((message.suppressions.getD []).map suppressionOf) else none }

/-- The part of an entry that does not depend on whether the message names a rule. -/
def findingOf (uri : Text) (index : Nat) (prints : Option Fingerprints) (message : Message) :
    Finding where
  level := levelOf message
  text := message.text
  location := { uri := uri, index := index, region := regionOf message }
  fingerprints := prints

/-- An entry is a notification of a message without a rule id, or a result of a message with one. -/
theorem entryAt_cases {options : Options} {uri : Text} {index : Nat} {ruleIndex : Option Nat}
    {merged : Bool} {message : Message} {entry : Entry}
    (made : entryAt options uri index ruleIndex merged message = .ok entry) :
    (properRuleId message = none ∧
      ∃ prints, Draft.fingerprintsOf options message uri = .ok prints ∧
        entry = .notification (findingOf uri index prints message)) ∨
    ∃ ruleId prints, properRuleId message = some ruleId ∧
      Draft.fingerprintsOf options message uri >>= Draft.withRuleFingerprint ruleId = .ok prints ∧
      entry = .result {
        finding := findingOf uri index prints message
        ruleId := ruleId
        ruleIndex := ruleIndex
        suppressions :=
          if merged then some ((message.suppressions.getD []).map suppressionOf) else none } := by
  unfold entryAt at made
  obtain ⟨prints, isPrints, made⟩ := bind_eq_ok_iff.1 made
  cases named : properRuleId message with
  | none =>
      simp only [named] at made
      cases made
      exact .inl ⟨rfl, prints, isPrints, rfl⟩
  | some ruleId =>
      simp only [named] at made
      obtain ⟨allPrints, areAll, made⟩ := bind_eq_ok_iff.1 made
      cases made
      exact .inr ⟨ruleId, allPrints, rfl, bind_eq_ok_iff.2 ⟨prints, isPrints, areAll⟩, rfl⟩

namespace Draft

/-- Put an entry at the end of its list. -/
def put (draft : Draft) : Entry → Draft
  | .result result => { draft with results := draft.results.push result }
  | .notification finding => { draft with notifications := draft.notifications.push finding }

/-- List the rule of a message if it names one and rules are listed at all. -/
def noteRule (options : Options) (rules : RuleTable) (draft : Draft) (message : Message) :
    Draft × Option Nat :=
  match properRuleId message with
  | none => (draft, none)
  | some ruleId => if options.indexRules then draft.addRule rules ruleId else (draft, none)

/-- Adding a message is listing its rule and then putting its entry. -/
theorem addMessage_eq (options : Options) (rules : RuleTable) (uri : Text) (index : Nat)
    (merged : Bool) (draft : Draft) (message : Message) :
    addMessage options rules uri index merged draft message =
      (entryAt options uri index (draft.noteRule options rules message).2 merged message).map
        (draft.noteRule options rules message).1.put := by
  unfold addMessage entryAt noteRule
  cases fingerprintsOf options message uri with
  | error fault => rfl
  | ok prints =>
      simp only [ok_bind]
      cases properRuleId message with
      | none => rfl
      | some ruleId =>
          simp only
          cases withRuleFingerprint ruleId prints with
          | error fault => cases options.indexRules <;> rfl
          | ok allPrints => cases options.indexRules <;> rfl

@[simp] theorem put_artifacts (draft : Draft) (entry : Entry) :
    (draft.put entry).artifacts = draft.artifacts := by
  cases entry <;> rfl

theorem addRule_artifacts (draft : Draft) (rules : RuleTable) (ruleId : Text) :
    (draft.addRule rules ruleId).1.artifacts = draft.artifacts := by
  unfold addRule
  split
  · rfl
  · split <;> rfl

@[simp] theorem noteRule_artifacts (options : Options) (rules : RuleTable) (draft : Draft)
    (message : Message) :
    (draft.noteRule options rules message).1.artifacts = draft.artifacts := by
  unfold noteRule
  split
  · rfl
  · split
    · exact addRule_artifacts draft rules _
    · rfl

/-- A message leaves the artifacts alone. -/
theorem addMessage_artifacts {options : Options} {rules : RuleTable} {uri : Text} {index : Nat}
    {merged : Bool} {draft next : Draft} {message : Message}
    (added : addMessage options rules uri index merged draft message = .ok next) :
    next.artifacts = draft.artifacts := by
  rw [addMessage_eq] at added
  cases made : entryAt options uri index (draft.noteRule options rules message).2 merged message
  with
  | error fault =>
      rw [made] at added
      cases added
  | ok entry =>
      rw [made] at added
      cases added
      rw [put_artifacts, noteRule_artifacts]

end Draft

/-! ## One fold -/

namespace Draft

/-- Add a message together with its file. -/
def addEmission (options : Options) (rules : RuleTable) (draft : Draft) (emission : Emission) :
    Except Text.EncodeFault Draft :=
  addMessage options rules (emission.uri options) (draft.addArtifact (emission.uri options)).2
    (mergesSuppressed options emission.file) (draft.addArtifact (emission.uri options)).1
    emission.message

/-- A file that is found is not listed again. -/
theorem addArtifact_of_found {draft : Draft} {uri : Text} {index : Nat}
    (found : draft.artifacts.findIdx? (fun artifact => artifact.uri = uri) = some index) :
    draft.addArtifact uri = (draft, index) := by
  unfold addArtifact
  rw [found]

/-- Once a file is listed it is found where it was listed. -/
theorem findIdx?_addArtifact (draft : Draft) (uri : Text) :
    (draft.addArtifact uri).1.artifacts.findIdx? (fun artifact => artifact.uri = uri) =
      some (draft.addArtifact uri).2 := by
  unfold addArtifact
  split
  · assumption
  · rename_i absent
    rw [Array.findIdx?_push, absent]
    simp

/-- The messages of a listed file are added as if each one listed the file first. -/
theorem foldlM_addMessage (options : Options) (rules : RuleTable) (file : FileResult)
    {index : Nat} (messages : List Message) (draft : Draft)
    (found : draft.artifacts.findIdx?
      (fun artifact => artifact.uri = relativeUri file.path options.baseFolder) = some index) :
    messages.foldlM (addMessage options rules (relativeUri file.path options.baseFolder) index
        (mergesSuppressed options file)) draft =
      (messages.map (Emission.mk file)).foldlM (addEmission options rules) draft := by
  induction messages generalizing draft with
  | nil => rfl
  | cons message messages inductionHypothesis =>
      rw [List.map_cons, List.foldlM_cons, List.foldlM_cons]
      have sameStep : addEmission options rules draft ⟨file, message⟩ =
          addMessage options rules (relativeUri file.path options.baseFolder) index
            (mergesSuppressed options file) draft message := by
        unfold addEmission Emission.uri
        rw [addArtifact_of_found found]
      rw [sameStep]
      cases added : addMessage options rules (relativeUri file.path options.baseFolder) index
          (mergesSuppressed options file) draft message with
      | error fault => rfl
      | ok next =>
          exact inductionHypothesis next (by rw [addMessage_artifacts added]; exact found)

theorem addFile_eq_foldlM (options : Options) (rules : RuleTable) (draft : Draft)
    (file : FileResult) :
    addFile options rules draft file =
      ((takenMessages options file).map (Emission.mk file)).foldlM
        (addEmission options rules) draft := by
  unfold addFile
  rw [messagesOf_eq_takenMessages]
  cases takenMessages options file with
  | nil => rfl
  | cons first rest =>
      -- The first message lists the file, so it may as well find the file listed already.
      have relisted : addEmission options rules draft ⟨file, first⟩ =
          addEmission options rules
            (draft.addArtifact (relativeUri file.path options.baseFolder)).1 ⟨file, first⟩ := by
        unfold addEmission Emission.uri
        rw [addArtifact_of_found (findIdx?_addArtifact draft _)]
      rw [List.map_cons, List.foldlM_cons, relisted, ← List.foldlM_cons, ← List.map_cons]
      exact foldlM_addMessage options rules file (first :: rest) _ (findIdx?_addArtifact draft _)

/-- A run over files is a run over the messages that it takes in. -/
theorem foldlM_addFile (options : Options) (rules : RuleTable) (files : List FileResult)
    (draft : Draft) :
    files.foldlM (addFile options rules) draft =
      (emissions options files).foldlM (addEmission options rules) draft := by
  induction files generalizing draft with
  | nil => rfl
  | cons file files inductionHypothesis =>
      unfold emissions
      rw [List.foldlM_cons, List.flatMap_cons, List.foldlM_append, addFile_eq_foldlM]
      apply bind_congr
      intro next
      exact inductionHypothesis next

end Draft

end Findings.Sarif
