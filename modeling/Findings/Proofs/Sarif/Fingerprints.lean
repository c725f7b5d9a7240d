import Findings.Proofs.Sarif.Artifacts
import Findings.Proofs.Sarif.Encodable

/-!
Contract: what a finding is recognised by.

Owns:
- `Subject`, the text of a finding, the location of its file and its rule, and the fingerprints of a
  subject;
- `subjectOf?`, the subject that an entry of a document shows;
- `fingerprints_of_subjects`: an entry has the fingerprints of the subject that it shows, whatever
  else its run takes in, so they stay when positions, severities and sources change.

Does not own: which subjects have no fingerprints (`Findings.Proofs.Sarif.Encodable`).
-/

set_option autoImplicit false

namespace Findings.Sarif

open Findings.Lint

/-! ## Subjects -/

/-- What a finding is recognised by: its text, the location of its file, and its rule if it has
one. -/
structure Subject where
  text : Text
  uri : Text
  ruleId : Option Text

/-- The fingerprints of a subject in a document: one for each of its parts, and no others. -/
def Subject.fingerprints (subject : Subject) : Except Text.EncodeFault Json := do
  let ofText ← fingerprint subject.text
  let ofUri ← fingerprint subject.uri
  match subject.ruleId with
  | none =>
      return .object [("messageHash/v1", .text ofText), ("artifactUriHash/v1", .text ofUri)]
  | some ruleId =>
      let ofRule ← fingerprint ruleId
      return .object [("messageHash/v1", .text ofText), ("artifactUriHash/v1", .text ofUri),
        ("ruleIdHash/v1", .text ofRule)]

/-- The text that an entry of a document shows. -/
def shownText? (entry : Json) : Option Json := (entry.member? "message").bind (Json.member? "text")

/-- The fingerprints that an entry of a document shows. -/
def shownFingerprints? (entry : Json) : Option Json := entry.member? "partialFingerprints"

/-- The subject that an entry of a document shows. -/
def subjectOf? (entry : Json) : Option Subject := do
  let text ← (shownText? entry).bind Json.text?
  let uri ← (shownUri? entry).bind Json.text?
  return { text := text, uri := uri, ruleId := (entry.member? "ruleId").bind Json.text? }

/-- The fingerprints of an entry can be made again from the entry alone. -/
def HasOwnFingerprints (entry : Json) : Prop :=
  ∃ subject prints, subjectOf? entry = some subject ∧ subject.fingerprints = .ok prints ∧
    shownFingerprints? entry = some prints

/-- Entries with the fingerprints of their subjects have the same ones if they show the same. -/
theorem HasOwnFingerprints.eq_of_same {left right : Json} (leftOwn : HasOwnFingerprints left)
    (rightOwn : HasOwnFingerprints right) (sameText : shownText? left = shownText? right)
    (sameUri : shownUri? left = shownUri? right)
    (sameRule : left.member? "ruleId" = right.member? "ruleId") :
    shownFingerprints? left = shownFingerprints? right := by
  have sameSubject : subjectOf? left = subjectOf? right := by
    unfold subjectOf?
    rw [sameText, sameUri, sameRule]
  obtain ⟨subject, prints, isSubject, arePrints, areShown⟩ := leftOwn
  obtain ⟨other, others, isOther, areOthers, othersShown⟩ := rightOwn
  have isSame : subject = other := by
    rw [isSubject, isOther] at sameSubject
    exact Option.some.inj sameSubject
  rw [areShown, othersShown]
  rw [isSame, areOthers] at arePrints
  exact congrArg some (Except.ok.inj arePrints).symm

/-! ## From messages to entries -/

/-- What the finding of a message is recognised by. -/
def Emission.subject (options : Options) (emission : Emission) : Subject where
  text := emission.message.text
  uri := emission.uri options
  ruleId := properRuleId emission.message

theorem shownFingerprints?_notification (finding : Finding) :
    shownFingerprints? finding.toJson = finding.fingerprints.map Fingerprints.toJson := by
  simp [shownFingerprints?, Finding.toJson, Finding.members, Entries.find?_append]

theorem shownFingerprints?_result (result : Result) :
    shownFingerprints? result.toJson = result.finding.fingerprints.map Fingerprints.toJson := by
  simp [shownFingerprints?, Result.toJson, Finding.members, Entries.find?_append]

/-- The fingerprints that results and notifications have in common. -/
theorem exists_of_fingerprintsOf {options : Options} {message : Message} {uri : Text}
    {prints : Option Fingerprints} (printed : options.fingerprints = true)
    (arePrints : Draft.fingerprintsOf options message uri = .ok prints) :
    ∃ ofText ofUri, fingerprint message.text = .ok ofText ∧ fingerprint uri = .ok ofUri ∧
      prints = some { message := ofText, artifactUri := ofUri } := by
  unfold Draft.fingerprintsOf at arePrints
  rw [if_pos printed] at arePrints
  obtain ⟨ofText, isOfText, arePrints⟩ := bind_eq_ok_iff.1 arePrints
  obtain ⟨ofUri, isOfUri, arePrints⟩ := bind_eq_ok_iff.1 arePrints
  cases arePrints
  exact ⟨ofText, ofUri, isOfText, isOfUri, rfl⟩

section Entries

variable {options : Options} {tables : Tables} {emission : Emission} {entry : Entry}

/-- An entry shows the subject of its message. -/
theorem subjectOf?_toJson (made : entryOf options tables emission = .ok entry) :
    subjectOf? entry.toJson = some (emission.subject options) := by
  have isUri := (entryOf_location made).1
  rcases entryAt_cases made with ⟨unnamed, prints, -, rfl⟩ | ⟨ruleId, prints, named, -, rfl⟩
  · unfold subjectOf? shownText? Emission.subject
    rw [isUri, unnamed]
    simp [Entry.toJson, Finding.toJson, Finding.members, Entries.find?_append, findingOf,
      messageText, Json.text?]
  · unfold subjectOf? shownText? Emission.subject
    rw [isUri, named]
    simp [Entry.toJson, Result.toJson, Finding.members, Entries.find?_append, findingOf,
      messageText, Json.text?]

/-- With fingerprints, an entry shows those of the subject of its message. -/
theorem exists_fingerprints_toJson (printed : options.fingerprints = true)
    (made : entryOf options tables emission = .ok entry) :
    ∃ prints, (emission.subject options).fingerprints = .ok prints ∧
      shownFingerprints? entry.toJson = some prints := by
  unfold Subject.fingerprints Emission.subject
  rcases entryAt_cases made with
    ⟨unnamed, prints, isPrints, rfl⟩ | ⟨ruleId, prints, named, arePrints, rfl⟩
  · obtain ⟨ofText, ofUri, isOfText, isOfUri, rfl⟩ := exists_of_fingerprintsOf printed isPrints
    rw [isOfText, isOfUri, unnamed]
    refine ⟨_, rfl, ?_⟩
    rw [Entry.toJson, shownFingerprints?_notification]
    rfl
  · obtain ⟨common, isCommon, arePrints⟩ := bind_eq_ok_iff.1 arePrints
    obtain ⟨ofText, ofUri, isOfText, isOfUri, rfl⟩ := exists_of_fingerprintsOf printed isCommon
    obtain ⟨ofRule, isOfRule, isPrints⟩ := bind_eq_ok_iff.1 arePrints
    cases isPrints
    rw [isOfText, isOfUri, named]
    simp only [ok_bind, isOfRule]
    refine ⟨_, rfl, ?_⟩
    rw [Entry.toJson, shownFingerprints?_result]
    rfl

end Entries

/-! ## Reports with the same subjects -/

/-- Two messages that differ at most in their positions, severities, sources and suppressions. -/
structure SameSubject (left right : Message) : Prop where
  text : left.text = right.text
  ruleId : left.ruleId = right.ruleId

/-- Two results of one file whose messages differ at most so, one by one. -/
structure SameSubjects (left right : FileResult) : Prop where
  path : left.path = right.path
  messages : List.Forall₂ SameSubject left.messages right.messages
  suppressedMessages : List.Forall₂ SameSubject left.suppressedMessages right.suppressedMessages

theorem subject_eq_of_sameSubject {options : Options} {file other : FileResult}
    {message otherMessage : Message} (samePath : file.path = other.path)
    (same : SameSubject message otherMessage) :
    Emission.subject options ⟨file, message⟩ = Emission.subject options ⟨other, otherMessage⟩ := by
  unfold Emission.subject Emission.uri properRuleId
  rw [samePath, same.text, same.ruleId]

/-- Reports that differ at most so have messages with the same subjects, one by one. -/
theorem emissions_sameSubjects (options : Options) {files others : List FileResult}
    (same : List.Forall₂ SameSubjects files others) :
    List.Forall₂ (fun emission other => emission.subject options = other.subject options)
      (emissions options files) (emissions options others) := by
  apply List.rel_flatMap same
  intro file other sameFile
  rw [List.forall₂_map_left_iff, List.forall₂_map_right_iff]
  have taken : List.Forall₂ SameSubject (takenMessages options file)
      (takenMessages options other) := by
    unfold takenMessages
    apply List.rel_append sameFile.messages
    split
    · exact .nil
    · exact sameFile.suppressedMessages
  exact taken.imp fun _ _ sameMessage => subject_eq_of_sameSubject sameFile.path sameMessage

theorem isRuled_iff (options : Options) (emission : Emission) :
    emission.IsRuled ↔ (emission.subject options).ruleId ≠ none := by
  unfold Emission.subject
  rw [ne_eq, properRuleId_eq_none_iff, not_not]

theorem encodeFault?_eq_of_subject {options : Options} {emission other : Emission}
    (same : emission.subject options = other.subject options) :
    emission.encodeFault? options = other.encodeFault? options := by
  simp only [Emission.subject, Subject.mk.injEq] at same
  obtain ⟨sameText, sameUri, sameRule⟩ := same
  unfold Emission.encodeFault?
  rw [sameText, sameUri, sameRule]

section Runs

variable {options : Options} {rules : RuleTable} {files others : List FileResult} {log : Log}

/-- Whether a run succeeds depends on the subjects of its messages. -/
theorem exists_log_of_same_subjects (built : Log.ofResults options rules files = .ok log)
    (same : (emissions options others).map (Emission.subject options) =
      (emissions options files).map (Emission.subject options)) :
    ∃ otherLog, Log.ofResults options rules others = .ok otherLog := by
  have faultless := exists_log_iff.1 ⟨log, built⟩
  refine exists_log_iff.2 fun emission isEmitted => ?_
  obtain ⟨other, isOther, sameSubject⟩ : ∃ other ∈ emissions options files,
      other.subject options = emission.subject options := by
    rw [← List.mem_map, ← same]
    exact List.mem_map_of_mem isEmitted
  rw [encodeFault?_eq_of_subject sameSubject.symm]
  exact faultless other isOther

/-- The fingerprints of the results and of the notifications of a run are those of the subjects with
and without a rule, in order. -/
theorem fingerprints_of_log (printed : options.fingerprints = true)
    (built : Log.ofResults options rules files = .ok log) :
    (resultsIn log.toJson).map shownFingerprints? =
        (((emissions options files).map (Emission.subject options)).filter fun subject =>
          subject.ruleId ≠ none).map (fun subject => subject.fingerprints.toOption) ∧
      (notificationsIn log.toJson).map shownFingerprints? =
        (((emissions options files).map (Emission.subject options)).filter fun subject =>
          ¬ subject.ruleId ≠ none).map fun subject => subject.fingerprints.toOption := by
  have areShown : ∀ {tables emission} {entry : Entry},
      entryOf options tables emission = .ok entry →
        (emission.subject options).fingerprints.toOption = shownFingerprints? entry.toJson := by
    intro tables emission entry made
    obtain ⟨prints, arePrints, isShown⟩ := exists_fingerprints_toJson printed made
    rw [arePrints, isShown]
    rfl
  obtain ⟨entries, made, rfl⟩ := ofResults_eq_ok_iff.1 built
  obtain ⟨results, notifications⟩ := split_entryOf made
  simp only [List.filter_map, Function.comp_def, ← isRuled_iff options, List.map_map]
  rw [resultsIn_toJson, notificationsIn_toJson, List.map_map, List.map_map]
  exact ⟨(map_eq_map_of_forall₂ (results.imp fun _ _ isMade => areShown isMade)).symm,
    (map_eq_map_of_forall₂ (notifications.imp fun _ _ isMade => areShown isMade)).symm⟩

/-- Every entry of a run has the fingerprints of what it shows. -/
theorem hasOwnFingerprints_of_mem (printed : options.fingerprints = true)
    (built : Log.ofResults options rules files = .ok log) {written : Json}
    (isShown : written ∈ entriesIn log.toJson) : HasOwnFingerprints written := by
  obtain ⟨entries, made, rfl⟩ := ofResults_eq_ok_iff.1 built
  obtain ⟨entry, member, rfl⟩ := (mem_entriesIn_logOf ..).1 isShown
  obtain ⟨emission, -, isMade⟩ := exists_of_forall₂_right made member
  obtain ⟨prints, arePrints, areShown⟩ := exists_fingerprints_toJson printed isMade
  exact ⟨_, prints, subjectOf?_toJson isMade, arePrints, areShown⟩

/-- **Fingerprints depend on the finding alone.**  In a run with fingerprints every entry has those
of its own text, the location of its file and, if it names a rule, its rule id, and no others.  So
entries of any two such runs that agree in these have the same ones, and a report in which positions,
severities and sources change keeps the fingerprints of its results and of its notifications, and
which messages become which. -/
theorem fingerprints_of_subjects (printed : options.fingerprints = true)
    (built : Log.ofResults options rules files = .ok log) :
    (∀ entry ∈ entriesIn log.toJson, HasOwnFingerprints entry) ∧
    (∀ (otherOptions : Options) (otherRules : RuleTable) (otherFiles : List FileResult)
        (otherLog : Log), otherOptions.fingerprints = true →
      Log.ofResults otherOptions otherRules otherFiles = .ok otherLog →
      ∀ left ∈ entriesIn log.toJson, ∀ right ∈ entriesIn otherLog.toJson,
        shownText? left = shownText? right → shownUri? left = shownUri? right →
        left.member? "ruleId" = right.member? "ruleId" →
        shownFingerprints? left = shownFingerprints? right) ∧
    ∀ others, List.Forall₂ SameSubjects files others →
      ∃ otherLog, Log.ofResults options rules others = .ok otherLog ∧
        (resultsIn otherLog.toJson).map shownFingerprints? =
          (resultsIn log.toJson).map shownFingerprints? ∧
        (notificationsIn otherLog.toJson).map shownFingerprints? =
          (notificationsIn log.toJson).map shownFingerprints? ∧
        List.Forall₂ (fun emission other => emission.IsRuled ↔ other.IsRuled)
          (emissions options files) (emissions options others) := by
  have own : ∀ entry ∈ entriesIn log.toJson, HasOwnFingerprints entry :=
    fun entry isShown => hasOwnFingerprints_of_mem printed built isShown
  refine ⟨own, ?anyRuns, ?changed⟩
  case anyRuns =>
    intro otherOptions otherRules otherFiles otherLog otherPrinted otherBuilt left leftShown right
      rightShown
    exact (own left leftShown).eq_of_same
      (hasOwnFingerprints_of_mem otherPrinted otherBuilt rightShown)
  case changed =>
    intro others same
    have sameEmissions := emissions_sameSubjects options same
    have sameSubjects := (map_eq_map_of_forall₂ sameEmissions).symm
    obtain ⟨otherLog, otherBuilt⟩ := exists_log_of_same_subjects built sameSubjects
    obtain ⟨results, notifications⟩ := fingerprints_of_log printed built
    obtain ⟨otherResults, otherNotifications⟩ := fingerprints_of_log printed otherBuilt
    refine ⟨otherLog, otherBuilt, ?_, ?_, ?_⟩
    · rw [otherResults, results, sameSubjects]
    · rw [otherNotifications, notifications, sameSubjects]
    · apply sameEmissions.imp
      intro emission other sameSubject
      rw [isRuled_iff options, isRuled_iff options, sameSubject]

end Runs

/-! ## A small run with fingerprints -/

/-- The options of the small run, with fingerprints. -/
def printedOptions : Options := { sampleOptions with fingerprints := true }

/-- A message in another place, with another severity and another source. -/
def elsewhere (message : Message) : Message :=
  { message with line := some 42, column := some 7, severity := 2, source := some "while" }

/-- The files of the small run, with all messages changed so. -/
def changedFiles : List FileResult :=
  sampleFiles.map fun file => { file with messages := file.messages.map elsewhere }

theorem printed_succeeds : ∃ log, Log.ofResults printedOptions sampleRules sampleFiles = .ok log :=
  exists_log_iff.2 (List.findSome?_eq_none_iff.1 rfl)

theorem changedFiles_sameSubjects : List.Forall₂ SameSubjects sampleFiles changedFiles := by
  unfold changedFiles
  rw [List.forall₂_map_right_iff, List.forall₂_same]
  intro file _
  refine ⟨rfl, ?_, List.forall₂_same.2 fun _ _ => ⟨rfl, rfl⟩⟩
  rw [List.forall₂_map_right_iff, List.forall₂_same]
  exact fun _ _ => ⟨rfl, rfl⟩

/-- The small run and the run over its changed messages have the same fingerprints. -/
theorem fingerprints_of_subjects_sample :
    ∃ log otherLog, Log.ofResults printedOptions sampleRules sampleFiles = .ok log ∧
      Log.ofResults printedOptions sampleRules changedFiles = .ok otherLog ∧
      (∀ entry ∈ entriesIn log.toJson, HasOwnFingerprints entry) ∧
      (resultsIn otherLog.toJson).map shownFingerprints? =
        (resultsIn log.toJson).map shownFingerprints? ∧
      (notificationsIn otherLog.toJson).map shownFingerprints? =
        (notificationsIn log.toJson).map shownFingerprints? := by
  obtain ⟨log, built⟩ := printed_succeeds
  obtain ⟨own, -, changed⟩ := fingerprints_of_subjects rfl built
  obtain ⟨otherLog, otherBuilt, results, notifications, -⟩ :=
    changed changedFiles changedFiles_sameSubjects
  exact ⟨log, otherLog, built, otherBuilt, own, results, notifications⟩

end Findings.Sarif
