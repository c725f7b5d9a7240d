import Findings.Proofs.Path.Denotation
import Findings.Proofs.Sarif.Artifacts

/-!
Contract: files that share an artifact.

Owns:
- `shownEmissions`, the messages of a run beside the entries of a document that show them, and
  `PointsAt`, where the entries of a file point;
- `pointsAt_iff`: all entries of a file point at the place of its location in the table;
- `artifacts_denote_files`: under an absolute base folder, an artifact stands for one file, and
  absolute paths that denote one file have one artifact.

Does not own: what a path denotes (`Findings.Proofs.Path.Denotation`).
-/

set_option autoImplicit false

namespace Findings.Sarif

open Findings.Lint Findings.FirstAppearance Findings.Path

/-! ## Where the entries of a file point -/

/-- The messages of a run beside the entries that show them: those that name a rule beside the
results of a document, the others beside its notifications. -/
def shownEmissions (options : Options) (files : List FileResult) (document : Json) :
    List (Emission × Json) :=
  ((emissions options files).filter fun emission => emission.IsRuled).zip (resultsIn document)
    ++ ((emissions options files).filter fun emission => ¬ emission.IsRuled).zip
      (notificationsIn document)

/-- An entry of a file points at a place among the artifacts. -/
def PointsAt (options : Options) (files : List FileResult) (document : Json) (file : FileResult)
    (index : Nat) : Prop :=
  ∃ shown ∈ shownEmissions options files document,
    shown.1.file = file ∧ shownIndex? shown.2 = some (.int index)

/-- The file that a path denotes under the options of a run. -/
def fileAt (options : Options) (path : Text) : List Text :=
  placeIn (toSlashes options.baseFolder) (toSlashes path)

section Run

variable {options : Options} {rules : RuleTable} {files : List FileResult} {log : Log}

/-- Every message is shown by an entry that points at the place of its location. -/
theorem forall₂_shownIndex (built : Log.ofResults options rules files = .ok log) :
    List.Forall₂ (fun emission entry =>
        shownIndex? entry = some (.int ((urisOf options files).idxOf (emission.uri options))))
        ((emissions options files).filter fun emission => emission.IsRuled)
        (resultsIn log.toJson) ∧
      List.Forall₂ (fun emission entry =>
        shownIndex? entry = some (.int ((urisOf options files).idxOf (emission.uri options))))
        ((emissions options files).filter fun emission => ¬ emission.IsRuled)
        (notificationsIn log.toJson) := by
  obtain ⟨entries, made, isLog⟩ := ofResults_eq_ok_iff.1 built
  have isKind : ∀ emission entry,
      entryOf options (Tables.of options rules (emissions options files)) emission = .ok entry →
        (entry.result?.isSome ↔ emission.IsRuled) := by
    intro emission entry isMade
    rcases entryAt_cases isMade with ⟨unnamed, _, _, isEntry⟩ | ⟨ruleId, _, named, _, isEntry⟩
    · rw [isEntry]
      exact iff_of_false Bool.false_ne_true ((properRuleId_eq_none_iff emission).1 unnamed)
    · rw [isEntry]
      exact iff_of_true rfl ⟨ruleId, (properRuleId_eq_some_iff _ _).1 named⟩
  obtain ⟨results, notifications⟩ := forall₂_split isKind made
  rw [resultsIn_toJson, notificationsIn_toJson, ← isLog, ← uris_of_emissions options rules files]
  constructor
  · apply List.forall₂_map_right_iff.2
    exact results.imp fun _ _ isMade => (entryOf_location isMade).2
  · apply List.forall₂_map_right_iff.2
    exact notifications.imp fun _ _ isMade => (entryOf_location isMade).2

/-- What is shown of a message points at the place of its location. -/
theorem shownIndex?_of_mem_shownEmissions (built : Log.ofResults options rules files = .ok log)
    {shown : Emission × Json} (member : shown ∈ shownEmissions options files log.toJson) :
    shownIndex? shown.2 = some (.int ((urisOf options files).idxOf (shown.1.uri options))) := by
  obtain ⟨results, notifications⟩ := forall₂_shownIndex built
  rcases List.mem_append.1 member with isResult | isNotification
  · exact List.forall₂_zip results isResult
  · exact List.forall₂_zip notifications isNotification

/-- Every message that is taken in is shown. -/
theorem exists_shown (built : Log.ofResults options rules files = .ok log) {emission : Emission}
    (isEmitted : emission ∈ emissions options files) :
    ∃ entry, (emission, entry) ∈ shownEmissions options files log.toJson := by
  obtain ⟨results, notifications⟩ := forall₂_shownIndex built
  by_cases ruled : emission.IsRuled
  · obtain ⟨entry, isShown⟩ := exists_mem_zip_of_forall₂ results
      (List.mem_filter.2 ⟨isEmitted, decide_eq_true ruled⟩)
    exact ⟨entry, List.mem_append_left _ isShown⟩
  · obtain ⟨entry, isShown⟩ := exists_mem_zip_of_forall₂ notifications
      (List.mem_filter.2 ⟨isEmitted, decide_eq_true ruled⟩)
    exact ⟨entry, List.mem_append_right _ isShown⟩

/-- What is shown is a message of one of the files that has messages. -/
theorem mem_urisOf_of_shown {shown : Emission × Json}
    (member : shown ∈ shownEmissions options files log.toJson) :
    shown.1.uri options ∈ urisOf options files := by
  have isEmitted : shown.1 ∈ emissions options files := by
    rcases List.mem_append.1 member with isResult | isNotification
    · exact (List.mem_filter.1 (List.of_mem_zip isResult).1).1
    · exact (List.mem_filter.1 (List.of_mem_zip isNotification).1).1
  rw [← uris_of_emissions options [] files, Tables.of, List.mem_eraseDups]
  exact List.mem_map_of_mem isEmitted

/-- Where an entry of a file points, the table has the location of the file. -/
theorem getElem?_of_pointsAt (built : Log.ofResults options rules files = .ok log)
    {file : FileResult} {index : Nat} (points : PointsAt options files log.toJson file index) :
    (urisOf options files)[index]? = some (relativeUri file.path options.baseFolder) := by
  obtain ⟨shown, member, isFile, isIndex⟩ := points
  rw [shownIndex?_of_mem_shownEmissions built member] at isIndex
  have samePlace : (urisOf options files).idxOf (shown.1.uri options) = index := by
    exact Int.ofNat_inj.1 (Json.int.inj (Option.some.inj isIndex))
  rw [← samePlace, getElem?_idxOf (mem_urisOf_of_shown member), Emission.uri, isFile]

/-- All entries of a file point at the place of its location. -/
theorem pointsAt_iff (built : Log.ofResults options rules files = .ok log) {file : FileResult}
    (member : file ∈ files) (taken : takenMessages options file ≠ []) (index : Nat) :
    PointsAt options files log.toJson file index ↔
      index = (urisOf options files).idxOf (relativeUri file.path options.baseFolder) := by
  constructor
  · intro points
    have found := getElem?_of_pointsAt built points
    have nodup : (urisOf options files).Nodup := nodup_eraseDups _
    obtain ⟨bound, isUri⟩ := List.getElem?_eq_some_iff.1 found
    rw [← isUri, nodup.idxOf_getElem]
  · intro isIndex
    obtain ⟨message, isTaken⟩ := List.exists_mem_of_ne_nil _ taken
    have isEmitted : Emission.mk file message ∈ emissions options files :=
      List.mem_flatMap.2 ⟨file, member, List.mem_map_of_mem isTaken⟩
    obtain ⟨entry, isShown⟩ := exists_shown built isEmitted
    refine ⟨_, isShown, rfl, ?_⟩
    rw [shownIndex?_of_mem_shownEmissions built isShown, isIndex]
    rfl

end Run

/-! ## Files and artifacts -/

/-- **An artifact denotes its file.**  Under an absolute base folder, the location of a file leads to
the file when it is read inside the folder.  So two files whose entries point at one artifact are the
same file; and of two absolute paths that denote the same file all entries point at one artifact. -/
theorem artifacts_denote_files {options : Options}
    (absolute : (ofText (toSlashes options.baseFolder)).isAbsolute = true) :
    (∀ path, placeIn (toSlashes options.baseFolder) (relativeUri path options.baseFolder) =
        fileAt options path) ∧
      ∀ (rules : RuleTable) (files : List FileResult) (log : Log),
        Log.ofResults options rules files = .ok log →
          (∀ left right index, PointsAt options files log.toJson left index →
            PointsAt options files log.toJson right index →
              fileAt options left.path = fileAt options right.path) ∧
          ∀ left ∈ files, ∀ right ∈ files,
            takenMessages options left ≠ [] → takenMessages options right ≠ [] →
            (ofText (toSlashes left.path)).isAbsolute = true →
            (ofText (toSlashes right.path)).isAbsolute = true →
            fileAt options left.path = fileAt options right.path →
              ∃ index, ∀ other, (PointsAt options files log.toJson left other ↔ other = index) ∧
                (PointsAt options files log.toJson right other ↔ other = index) := by
  rw [isAbsolute_ofText_iff] at absolute
  have denotes : ∀ path,
      placeIn (toSlashes options.baseFolder) (relativeUri path options.baseFolder) =
        fileAt options path := placeIn_relativeUri absolute
  refine ⟨denotes, fun rules files log built => ⟨?sameFile, ?sameArtifact⟩⟩
  case sameFile =>
    intro left right index leftPoints rightPoints
    have leftFound := getElem?_of_pointsAt built leftPoints
    have rightFound := getElem?_of_pointsAt built rightPoints
    have sameUri : relativeUri left.path options.baseFolder =
        relativeUri right.path options.baseFolder := by
      rw [leftFound] at rightFound
      exact Option.some.inj rightFound
    rw [← denotes, sameUri, denotes]
  case sameArtifact =>
    intro left leftMember right rightMember leftTaken rightTaken leftAbsolute rightAbsolute samePlace
    rw [isAbsolute_ofText_iff] at leftAbsolute rightAbsolute
    have sameUri := relativeUri_eq_of_same_place absolute leftAbsolute rightAbsolute samePlace
    refine ⟨(urisOf options files).idxOf (relativeUri left.path options.baseFolder), ?_⟩
    intro other
    constructor
    · exact pointsAt_iff built leftMember leftTaken other
    · rw [sameUri]
      exact pointsAt_iff built rightMember rightTaken other

/-- The first and the last file of the small run are one file in two spellings. -/
theorem artifacts_denote_files_sample :
    placeIn "/repo" (relativeUri "\\repo\\.\\a.js" "/repo") =
        fileAt sampleOptions "\\repo\\.\\a.js" ∧
      ∃ log, Log.ofResults sampleOptions sampleRules sampleFiles = .ok log ∧
        ∃ left ∈ sampleFiles, ∃ right ∈ sampleFiles, left.path ≠ right.path ∧
          ∃ index, ∀ other,
            (PointsAt sampleOptions sampleFiles log.toJson left other ↔ other = index) ∧
              (PointsAt sampleOptions sampleFiles log.toJson right other ↔ other = index) := by
  have denotes := @artifacts_denote_files sampleOptions (by decide)
  obtain ⟨log, built⟩ := sample_succeeds
  have shared := (denotes.2 sampleRules sampleFiles log built).2
  refine ⟨denotes.1 "\\repo\\.\\a.js", log, built, sampleFiles[0], List.getElem_mem _,
    sampleFiles[2], List.getElem_mem _, by decide, ?_⟩
  apply shared
  · exact List.getElem_mem _
  · exact List.getElem_mem _
  · decide
  · decide
  · decide
  · decide
  · decide

end Findings.Sarif
