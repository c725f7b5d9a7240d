import Findings.Proofs.Sarif.Document
import Findings.Proofs.Sarif.Run

/-!
Contract: which results of a document tell of suppressions.

Owns:
- `TellsOfAllOrNone`, a document of which either all results tell of suppressions or none does;
- `tells_of_merged_files`: a result tells of suppressions just when the suppressed messages of its
  own file are taken in, so a document tells of all or none unless its run gets results both of files
  with suppressed messages and of files without;
- a run that does (`tells_of_some_only`).

Does not own: what a result tells of its suppressions (`Findings.Proofs.Sarif.Entries`).
-/

set_option autoImplicit false

namespace Findings.Sarif

open Findings.Lint

/-- A result of a document tells whether and how it is suppressed. -/
def TellsOfSuppressions (result : Json) : Prop := (result.member? "suppressions").isSome

/-- Either all results of a document tell of suppressions, or none does. -/
def TellsOfAllOrNone (document : Json) : Prop :=
  (∀ result ∈ resultsIn document, TellsOfSuppressions result) ∨
    ∀ result ∈ resultsIn document, ¬ TellsOfSuppressions result

/-- A run gets a result of a file: one of the messages that it takes in names a rule. -/
def YieldsResult (options : Options) (file : FileResult) : Prop :=
  ∃ message ∈ takenMessages options file, ∃ ruleId, message.ruleId = some ruleId ∧ ruleId ≠ []

/-- A run takes suppressed messages in, and gets a result of a file that has some and one of a file
that has none. -/
structure MixesFiles (options : Options) (files : List FileResult) : Prop where
  takesIn : options.ignoreSuppressed = false
  suppressed : ∃ file ∈ files, YieldsResult options file ∧ file.suppressedMessages ≠ []
  unsuppressed : ∃ file ∈ files, YieldsResult options file ∧ file.suppressedMessages = []

section Runs

variable {options : Options} {rules : RuleTable} {files : List FileResult} {log : Log}

/-- The files of messages that name a rule are the files of which a run gets results. -/
theorem exists_ruled_iff (p : FileResult → Prop) :
    (∃ emission ∈ (emissions options files).filter (fun emission => emission.IsRuled),
        p emission.file) ↔
      ∃ file ∈ files, YieldsResult options file ∧ p file := by
  unfold emissions YieldsResult
  simp only [List.mem_filter, List.mem_flatMap, List.mem_map, decide_eq_true_eq]
  constructor
  · rintro ⟨_, ⟨⟨file, isFile, message, isTaken, rfl⟩, ruled⟩, holds⟩
    exact ⟨file, isFile, ⟨message, isTaken, ruled⟩, holds⟩
  · rintro ⟨file, isFile, ⟨message, isTaken, ruled⟩, holds⟩
    exact ⟨⟨file, message⟩, ⟨⟨file, isFile, message, isTaken, rfl⟩, ruled⟩, holds⟩

/-- The results of a run tell of suppressions, one by one, when the suppressed messages of their files
are taken in. -/
theorem tellsOfSuppressions_iff (built : Log.ofResults options rules files = .ok log) :
    List.Forall₂ (fun emission result => TellsOfSuppressions result ↔ emission.IsMerged options)
      ((emissions options files).filter fun emission => emission.IsRuled)
      (resultsIn log.toJson) := by
  obtain ⟨entries, made, rfl⟩ := ofResults_eq_ok_iff.1 built
  rw [resultsIn_toJson, List.forall₂_map_right_iff]
  apply (split_entryOf made).1.imp
  intro emission result isMade
  rcases entryAt_cases isMade with ⟨-, prints, -, isEntry⟩ | ⟨ruleId, prints, -, -, isEntry⟩
  · cases isEntry
  · cases isEntry
    rw [← mergesSuppressed_eq_true_iff]
    cases merges : Draft.mergesSuppressed options emission.file <;>
      simp [TellsOfSuppressions, Result.toJson, Finding.members, Entries.find?_append]

theorem tellsOfAllOrNone_iff (built : Log.ofResults options rules files = .ok log) :
    TellsOfAllOrNone log.toJson ↔ ¬ MixesFiles options files := by
  have told := tellsOfSuppressions_iff built
  have someTell := exists_mem_iff_of_forall₂ told fun _ _ isTold => isTold.symm
  have someDoNot := exists_mem_iff_of_forall₂ told fun _ _ isTold => not_congr isTold.symm
  have both : TellsOfAllOrNone log.toJson ↔
      ¬ ((∃ result ∈ resultsIn log.toJson, TellsOfSuppressions result) ∧
        ∃ result ∈ resultsIn log.toJson, ¬ TellsOfSuppressions result) := by
    unfold TellsOfAllOrNone
    rw [not_and_or, or_comm]
    simp only [not_exists, not_and, not_not]
  rw [both, ← someTell, ← someDoNot]
  apply not_congr
  unfold Emission.IsMerged
  rw [exists_ruled_iff fun file =>
      file.suppressedMessages ≠ [] ∧ options.ignoreSuppressed = false,
    exists_ruled_iff fun file =>
      ¬ (file.suppressedMessages ≠ [] ∧ options.ignoreSuppressed = false)]
  constructor
  · rintro ⟨⟨file, isFile, yields, isSuppressed, takesIn⟩, other, isOther, otherYields, unmerged⟩
    refine ⟨takesIn, ⟨file, isFile, yields, isSuppressed⟩, other, isOther, otherYields, ?_⟩
    by_contra otherSuppressed
    exact unmerged ⟨otherSuppressed, takesIn⟩
  · rintro ⟨takesIn, ⟨file, isFile, yields, isSuppressed⟩, other, isOther, otherYields, noneThere⟩
    exact ⟨⟨file, isFile, yields, isSuppressed, takesIn⟩, other, isOther, otherYields,
      fun merged => merged.1 noneThere⟩

/-- **Results tell of suppressions file by file.**  A result tells of them just when its file has
suppressed messages that are not ignored.  So all results of a document tell of suppressions or none
does, unless its run gets results both of a file with such messages and of a file without. -/
theorem tells_of_merged_files (built : Log.ofResults options rules files = .ok log) :
    List.Forall₂ (fun emission result => TellsOfSuppressions result ↔ emission.IsMerged options)
        ((emissions options files).filter fun emission => emission.IsRuled)
        (resultsIn log.toJson) ∧
      (TellsOfAllOrNone log.toJson ↔ ¬ MixesFiles options files) :=
  ⟨tellsOfSuppressions_iff built, tellsOfAllOrNone_iff built⟩

end Runs

theorem tells_of_merged_files_sample :
    ∃ log, Log.ofResults sampleOptions sampleRules sampleFiles = .ok log ∧
      List.Forall₂
        (fun emission result => TellsOfSuppressions result ↔ emission.IsMerged sampleOptions)
        ((emissions sampleOptions sampleFiles).filter fun emission => emission.IsRuled)
        (resultsIn log.toJson) ∧
      (TellsOfAllOrNone log.toJson ↔ ¬ MixesFiles sampleOptions sampleFiles) := by
  obtain ⟨log, built⟩ := sample_succeeds
  exact ⟨log, built, tells_of_merged_files built⟩

/-! ## A run that tells of some only -/

/-- A file with a suppressed message and one without. -/
def mixedFiles : List FileResult := [
  { path := "a.js"
    suppressedMessages := [
      { text := "first", ruleId := some "semi", suppressions := some [{ kind := "directive" }] }] },
  { path := "b.js", messages := [{ text := "second", ruleId := some "semi" }] }]

/-- **Of two results only one tells of suppressions**: its file has a suppressed message, and the
other one's has none. -/
theorem tells_of_some_only :
    ∃ log, Log.ofResults { fingerprints := false } [] mixedFiles = .ok log ∧
      ¬ TellsOfAllOrNone log.toJson := by
  obtain ⟨log, built⟩ : ∃ log, Log.ofResults { fingerprints := false } [] mixedFiles = .ok log :=
    ⟨_, rfl⟩
  refine ⟨log, built, ?_⟩
  rw [tellsOfAllOrNone_iff built, not_not]
  exact {
    takesIn := rfl
    suppressed := ⟨mixedFiles[0], List.getElem_mem _, ⟨_, List.mem_singleton_self _, _, rfl,
      by decide⟩, by decide⟩
    unsuppressed := ⟨mixedFiles[1], List.getElem_mem _, ⟨_, List.mem_singleton_self _, _, rfl,
      by decide⟩, by decide⟩ }

end Findings.Sarif
