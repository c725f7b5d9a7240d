import Findings.Proofs.Lint.Shape
import Findings.Proofs.Sarif.Run

/-!
Contract: when a log tells that its run failed.

Owns:
- `IsFailure`, a message that is an error of no rule, and that a log tells of a failure just when
  its run takes such a message in (`executionSuccessful_eq_false_iff`);
- `Lint.HoldsFailure`, the same said of the objects in a report, and that it is the same for what is
  read of them (`holdsFailure_iff`).

Does not own: who is told of a failure (`Findings.Proofs.Command.Agreement`).
-/

set_option autoImplicit false

namespace Findings

namespace Lint

/-! ## Failures in a report -/

/-- The members of an object tell of a failure: they name no rule, because the rule id is missing,
empty or no text, and they tell of something fatal or of an error. -/
def TellsOfFailure (members : Entries Json) : Prop :=
  (∀ ruleId, Entries.find? "ruleId" members = some (.text ruleId) → ruleId = []) ∧
    (Entries.find? "fatal" members = some (.bool true) ∨
      Entries.find? "severity" members = some (.int 2))

/-- The objects of the messages of a file result, with the suppressed ones unless they are
ignored. -/
def messageObjects (ignoreSuppressed : Bool) (members : Entries Json) : List (Entries Json) :=
  objectsUnder members "messages" ++
    if ignoreSuppressed then [] else objectsUnder members "suppressedMessages"

/-- A message of a file result with a path tells of a failure. -/
def HoldsFailure (ignoreSuppressed : Bool) (items : List Json) : Prop :=
  ∃ members ∈ items.filterMap withPath?,
    ∃ message ∈ messageObjects ignoreSuppressed members, TellsOfFailure message

end Lint

namespace Sarif

open Findings.Lint

/-! ## Failures in a run -/

/-- A message is an error of no rule. -/
def IsFailure (message : Message) : Prop :=
  properRuleId message = none ∧ levelOf message = .error

theorem levelOf_eq_error_iff {message : Message} :
    levelOf message = .error ↔ message.fatal = true ∨ message.severity = errorSeverity := by
  unfold levelOf
  split
  case isTrue isError => exact iff_of_true rfl isError
  case isFalse noError => exact iff_of_false Level.noConfusion noError

/-- An entry is a notification of an error. -/
def Entry.IsFailure (entry : Entry) : Prop :=
  ∃ finding, entry = .notification finding ∧ finding.level = .error

/-- The notifications of errors are the entries of errors of no rule. -/
theorem isFailure_entryOf_iff {options : Options} {tables : Tables} {emission : Emission}
    {entry : Entry} (made : entryOf options tables emission = .ok entry) :
    IsFailure emission.message ↔ entry.IsFailure := by
  rcases entryAt_cases made with
    ⟨unnamed, prints, -, rfl⟩ | ⟨ruleId, prints, named, -, rfl⟩
  · constructor
    · rintro ⟨-, isError⟩
      exact ⟨_, rfl, isError⟩
    · rintro ⟨finding, isFinding, isError⟩
      cases isFinding
      exact ⟨unnamed, isError⟩
  · constructor
    · rintro ⟨unnamed, -⟩
      rw [named] at unnamed
      cases unnamed
    · rintro ⟨finding, isFinding, -⟩
      cases isFinding

theorem Log.executionSuccessful_eq_false_iff {log : Log} :
    log.executionSuccessful = false ↔ ∃ finding ∈ log.notifications, finding.level = .error := by
  unfold Log.executionSuccessful
  simp

/-- **Failed runs.**  A log tells of a failure if and only if its run takes in an error of no
rule. -/
theorem executionSuccessful_eq_false_iff {options : Options} {rules : RuleTable}
    {files : List FileResult} {log : Log} (isLog : Log.ofResults options rules files = .ok log) :
    log.executionSuccessful = false ↔
      ∃ emission ∈ emissions options files, IsFailure emission.message := by
  obtain ⟨entries, made, rfl⟩ := ofResults_eq_ok_iff.1 isLog
  rw [exists_mem_iff_of_forall₂ made fun _ _ isEntry => isFailure_entryOf_iff isEntry,
    Log.executionSuccessful_eq_false_iff]
  constructor
  · rintro ⟨finding, member, isError⟩
    exact ⟨_, mem_filterMap_notification?.1 member, finding, rfl, isError⟩
  · rintro ⟨_, member, finding, rfl, isError⟩
    exact ⟨finding, mem_filterMap_notification?.2 member, isError⟩

/-! ## From the report to the run -/

section Reports

variable {members : Entries Json} {message : Message}

theorem severity_eq_iff (describes : message.Describes members) :
    message.severity = errorSeverity ↔ Entries.find? "severity" members = some (.int 2) := by
  constructor
  · intro isError
    by_contra noError
    by_cases isNumber : ∃ number, Entries.find? "severity" members = some (.int number)
    · obtain ⟨number, found⟩ := isNumber
      rw [describes.severity number found] at isError
      rw [isError] at found
      exact noError found
    · have isWarning := describes.noSeverity fun number found => isNumber ⟨number, found⟩
      rw [isWarning] at isError
      exact absurd isError (by decide)
  · exact describes.severity 2

theorem properRuleId_eq_none_iff_of_describes (describes : message.Describes members) :
    properRuleId message = none ↔
      ∀ ruleId, Entries.find? "ruleId" members = some (.text ruleId) → ruleId = [] := by
  rw [Option.eq_none_iff_forall_ne_some]
  refine forall_congr' fun ruleId => ?_
  rw [ne_eq, properRuleId_eq_some_iff, describes.ruleId]
  constructor
  · intro noRule found
    by_contra nonempty
    exact noRule ⟨⟨found, nonempty⟩, nonempty⟩
  · rintro isEmpty ⟨⟨found, nonempty⟩, -⟩
    exact nonempty (isEmpty found)

theorem tellsOfFailure_iff (describes : message.Describes members) :
    TellsOfFailure members ↔ IsFailure message := by
  unfold TellsOfFailure IsFailure
  rw [properRuleId_eq_none_iff_of_describes describes, levelOf_eq_error_iff, describes.fatal,
    severity_eq_iff describes]

/-- The objects of a file result describe the messages that a run takes in. -/
theorem takenMessages_describes (options : Options) {file : FileResult}
    (describes : file.Describes members) :
    List.Forall₂ Message.Describes (messageObjects options.ignoreSuppressed members)
      (takenMessages options file) := by
  unfold messageObjects takenMessages
  refine List.rel_append describes.messages ?_
  split
  · exact .nil
  · exact describes.suppressedMessages

/-- **Failures.**  What is read of an array of results has an error of no rule that a run takes in
if and only if the array holds one. -/
theorem holdsFailure_iff (options : Options) (items : List Json) :
    HoldsFailure options.ignoreSuppressed items ↔
      ∃ emission ∈ emissions options (readResults items), IsFailure emission.message := by
  have ofFile : ∀ members (file : FileResult), file.Describes members →
      ((∃ object ∈ messageObjects options.ignoreSuppressed members, TellsOfFailure object) ↔
        ∃ message ∈ takenMessages options file, IsFailure message) :=
    fun _ _ describes => exists_mem_iff_of_forall₂ (takenMessages_describes options describes)
      fun _ _ isDescribed => tellsOfFailure_iff isDescribed
  unfold HoldsFailure
  rw [exists_mem_iff_of_forall₂ (readResults_describes items) ofFile]
  simp only [emissions, List.mem_flatMap, List.mem_map]
  constructor
  · rintro ⟨file, isFile, message, isMessage, fails⟩
    exact ⟨⟨file, message⟩, ⟨file, isFile, message, isMessage, rfl⟩, fails⟩
  · rintro ⟨_, ⟨file, isFile, message, isMessage, rfl⟩, fails⟩
    exact ⟨file, isFile, message, isMessage, fails⟩

end Reports

end Sarif

end Findings
