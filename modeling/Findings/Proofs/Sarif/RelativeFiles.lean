import Findings.Proofs.Path.Canonical
import Findings.Proofs.Sarif.SharedArtifacts

/-!
Contract: relative files that share an artifact.

Owns:
- `relativeTo_eq_iff_of_relative`: from a relative base, different relative paths are seen alike if
  one of them is the other put below the base, while the other lies outside of it;
- `Clashes`, the same of a base folder and two files;
- `relative_files_share_iff`: relative files have one location, and one artifact in a run, if they
  have one normal form or clash, and in no other case;
- `relative_files_clash`: two files of a run that clash.

A relative path outside of a relative base is seen as it is.  What is seen of a path below the base
has lost the base, and nothing tells that it had one.
-/

set_option autoImplicit false

namespace Findings

namespace Path

/-! ## Relative paths seen from a base -/

section Seen

variable {path left right base : Path}

/-- From a relative base, a relative path is seen without the base or, when it is not below the
base, as it is. -/
theorem relativeTo_of_relative_base (pathRelative : path.root = .relative)
    (baseRelative : base.root = .relative) :
    (∃ rest, path.segments = base.segments ++ rest ∧ path.relativeTo base = ⟨.relative, rest⟩) ∨
      (¬ base.segments <+: path.segments ∧ path.relativeTo base = path) := by
  rcases relativeTo_cases path base with
    ⟨rest, _, isRest, isSeen⟩ | ⟨absolute, _, _⟩ | ⟨notBelow, _, isSeen⟩
  · exact .inl ⟨rest, isRest, isSeen⟩
  · exact absurd pathRelative absolute
  · refine .inr ⟨fun isBeginning => notBelow ⟨?_, isBeginning⟩, isSeen⟩
    rw [pathRelative, baseRelative]

theorem eq_of_relative (leftRelative : left.root = .relative)
    (rightRelative : right.root = .relative) (same : left.segments = right.segments) :
    left = right := by
  obtain ⟨root, segments⟩ := left
  obtain ⟨otherRoot, otherSegments⟩ := right
  cases leftRelative
  cases rightRelative
  cases same
  rfl

/-- A path below the base is seen as the path outside of it that it becomes without the base. -/
theorem relativeTo_eq_of_append (leftRelative : left.root = .relative)
    (rightRelative : right.root = .relative) (baseRelative : base.root = .relative)
    (isBelow : left.segments = base.segments ++ right.segments)
    (isOutside : ¬ base.segments <+: right.segments) :
    left.relativeTo base = right.relativeTo base := by
  have rightSeen : right.relativeTo base = right := by
    rcases relativeTo_of_relative_base rightRelative baseRelative with ⟨rest, isRest, _⟩ | ⟨_, seen⟩
    · exact absurd ⟨rest, isRest.symm⟩ isOutside
    · exact seen
  rcases relativeTo_of_relative_base leftRelative baseRelative with
    ⟨rest, isRest, seen⟩ | ⟨outside, _⟩
  · have isRight : rest = right.segments := List.append_cancel_left (isRest.symm.trans isBelow)
    rw [seen, rightSeen]
    exact eq_of_relative rfl rightRelative isRight
  · exact absurd ⟨right.segments, isBelow.symm⟩ outside

/-- **Relative paths that are seen alike.**  They are equal, or from a relative base one of them is
the other put below the base, while that lies outside of it. -/
theorem relativeTo_eq_iff_of_relative (leftRelative : left.root = .relative)
    (rightRelative : right.root = .relative) :
    left.relativeTo base = right.relativeTo base ↔
      left = right ∨
        (base.root = .relative ∧ left.segments = base.segments ++ right.segments ∧
          ¬ base.segments <+: right.segments) ∨
        (base.root = .relative ∧ right.segments = base.segments ++ left.segments ∧
          ¬ base.segments <+: left.segments) := by
  constructor
  · intro alike
    by_cases baseRelative : base.root = .relative
    · rcases relativeTo_of_relative_base leftRelative baseRelative with
        ⟨leftRest, isLeft, leftSeen⟩ | ⟨leftOutside, leftSeen⟩
      · rcases relativeTo_of_relative_base rightRelative baseRelative with
          ⟨rightRest, isRight, rightSeen⟩ | ⟨rightOutside, rightSeen⟩
        · rw [leftSeen, rightSeen] at alike
          cases alike
          exact .inl (eq_of_relative leftRelative rightRelative (isLeft.trans isRight.symm))
        · rw [leftSeen, rightSeen] at alike
          rw [← alike] at rightOutside ⊢
          exact .inr (.inl ⟨baseRelative, isLeft, rightOutside⟩)
      · rcases relativeTo_of_relative_base rightRelative baseRelative with
          ⟨rightRest, isRight, rightSeen⟩ | ⟨_, rightSeen⟩
        · rw [leftSeen, rightSeen] at alike
          rw [alike] at leftOutside ⊢
          exact .inr (.inr ⟨baseRelative, isRight, leftOutside⟩)
        · rw [leftSeen, rightSeen] at alike
          exact .inl alike
    · rw [relativeTo_of_relative leftRelative baseRelative,
        relativeTo_of_relative rightRelative baseRelative] at alike
      exact .inl alike
  · rintro (rfl | ⟨baseRelative, isBelow, isOutside⟩ | ⟨baseRelative, isBelow, isOutside⟩)
    · rfl
    · exact relativeTo_eq_of_append leftRelative rightRelative baseRelative isBelow isOutside
    · exact (relativeTo_eq_of_append rightRelative leftRelative baseRelative isBelow isOutside).symm

end Seen

end Path

open Findings.Path

/-! ## Locations of relative files -/

/-- A path that does not start at a root, backslashes read as slashes. -/
def IsRelative (path : Text) : Prop := (toSlashes path).head? ≠ some slash

instance (path : Text) : Decidable (IsRelative path) :=
  inferInstanceAs (Decidable ((toSlashes path).head? ≠ some slash))

/-- A file below a relative base takes the location of a file outside of it: its normal form is that
of the base followed by that of the other file. -/
structure Clashes (base inner outer : Text) : Prop where
  relativeBase : IsRelative base
  below : (normalPath inner).segments = (normalPath base).segments ++ (normalPath outer).segments
  outside : ¬ (normalPath base).segments <+: (normalPath outer).segments

/-- Two files have one normal form or, in either order, clash. -/
def SameOrClash (base left right : Text) : Prop :=
  normalText (toSlashes left) = normalText (toSlashes right) ∨
    Clashes base left right ∨ Clashes base right left

theorem isRelative_iff (path : Text) : IsRelative path ↔ (normalPath path).root = .relative :=
  (rootOf_eq_relative_iff _).symm

theorem clashes_iff (base inner outer : Text) :
    Clashes base inner outer ↔ (normalPath base).root = .relative ∧
      (normalPath inner).segments = (normalPath base).segments ++ (normalPath outer).segments ∧
        ¬ (normalPath base).segments <+: (normalPath outer).segments := by
  rw [← isRelative_iff]
  constructor
  · intro clash
    exact ⟨clash.relativeBase, clash.below, clash.outside⟩
  · rintro ⟨relativeBase, below, outside⟩
    exact { relativeBase := relativeBase, below := below, outside := outside }

/-- Relative files have one location just when they have one normal form or clash. -/
theorem relativeUri_eq_iff_of_relative {left right : Text} (base : Text)
    (leftRelative : IsRelative left) (rightRelative : IsRelative right) :
    relativeUri left base = relativeUri right base ↔ SameOrClash base left right := by
  have sameForm : normalText (toSlashes left) = normalText (toSlashes right) ↔
      normalPath left = normalPath right :=
    toText_inj (isNormal_normalPath left).whole (isNormal_normalPath right).whole
  unfold SameOrClash
  rw [relativeUri_eq, relativeUri_eq,
    toText_inj (isSegment_of_mem_relativeTo left base) (isSegment_of_mem_relativeTo right base),
    sameForm, clashes_iff, clashes_iff]
  apply relativeTo_eq_iff_of_relative
  · exact (isRelative_iff left).1 leftRelative
  · exact (isRelative_iff right).1 rightRelative

namespace Sarif

open Findings.Lint Findings.FirstAppearance

/-- Files that have messages point at one artifact just when they have one location. -/
theorem exists_pointsAt_iff {options : Options} {rules : RuleTable} {files : List FileResult}
    {log : Log} (built : Log.ofResults options rules files = .ok log) {left right : FileResult}
    (leftMember : left ∈ files) (rightMember : right ∈ files)
    (leftTaken : takenMessages options left ≠ []) (rightTaken : takenMessages options right ≠ []) :
    (∃ index, PointsAt options files log.toJson left index ∧
        PointsAt options files log.toJson right index) ↔
      relativeUri left.path options.baseFolder = relativeUri right.path options.baseFolder := by
  constructor
  · rintro ⟨index, leftPoints, rightPoints⟩
    have leftUri := getElem?_of_pointsAt built leftPoints
    have rightUri := getElem?_of_pointsAt built rightPoints
    exact Option.some.inj (leftUri.symm.trans rightUri)
  · intro sameUri
    refine ⟨_, (pointsAt_iff built leftMember leftTaken _).2 rfl, ?_⟩
    rw [pointsAt_iff built rightMember rightTaken, sameUri]

/-- **Relative files that share an artifact.**  Under any base folder, two relative files have one
location just when they have one normal form or clash, and in a run that takes messages of both in
they share an artifact in just these cases.  Nothing clashes under an absolute base folder. -/
theorem relative_files_share_iff (options : Options) :
    (∀ left right, IsRelative left → IsRelative right →
      (relativeUri left options.baseFolder = relativeUri right options.baseFolder ↔
        SameOrClash options.baseFolder left right)) ∧
      ∀ (rules : RuleTable) (files : List FileResult) (log : Log),
        Log.ofResults options rules files = .ok log →
          ∀ left ∈ files, ∀ right ∈ files,
            takenMessages options left ≠ [] → takenMessages options right ≠ [] →
            IsRelative left.path → IsRelative right.path →
              ((∃ index, PointsAt options files log.toJson left index ∧
                  PointsAt options files log.toJson right index) ↔
                SameOrClash options.baseFolder left.path right.path) := by
  have shareLocation : ∀ left right, IsRelative left → IsRelative right →
      (relativeUri left options.baseFolder = relativeUri right options.baseFolder ↔
        SameOrClash options.baseFolder left right) := fun left right =>
    relativeUri_eq_iff_of_relative options.baseFolder
  refine ⟨shareLocation, ?_⟩
  intro rules files log built left leftMember right rightMember leftTaken rightTaken leftRelative
    rightRelative
  rw [exists_pointsAt_iff built leftMember rightMember leftTaken rightTaken]
  exact shareLocation left.path right.path leftRelative rightRelative

/-- The options of a run with a relative base folder. -/
def relativeOptions : Options where
  baseFolder := "src"
  fingerprints := false

/-- A file below the base folder and one beside it. -/
def relativeFiles : List FileResult := [
  { path := "src/a.js", messages := [{ text := "first", ruleId := some "semi" }] },
  { path := "a.js", messages := [{ text := "second", ruleId := some "semi" }] }]

/-- The two files share an artifact because they clash. -/
theorem relative_files_share_iff_sample :
    ∃ log, Log.ofResults relativeOptions [] relativeFiles = .ok log ∧
      Clashes relativeOptions.baseFolder relativeFiles[0].path relativeFiles[1].path ∧
      ∃ index, PointsAt relativeOptions relativeFiles log.toJson relativeFiles[0] index ∧
        PointsAt relativeOptions relativeFiles log.toJson relativeFiles[1] index := by
  obtain ⟨log, built⟩ : ∃ log, Log.ofResults relativeOptions [] relativeFiles = .ok log := ⟨_, rfl⟩
  have clash : Clashes relativeOptions.baseFolder relativeFiles[0].path relativeFiles[1].path := {
    relativeBase := by decide
    below := by decide
    outside := by decide }
  refine ⟨log, built, clash, ?_⟩
  apply ((relative_files_share_iff relativeOptions).2 [] relativeFiles log built relativeFiles[0]
    (List.getElem_mem _) relativeFiles[1] (List.getElem_mem _) ?_ ?_ ?_ ?_).2
  · exact .inr (.inl clash)
  · decide
  · decide
  · decide
  · decide

/-- **Two different files under one artifact.**  Both are relative, as is the base folder, and they
have one location. -/
theorem relative_files_clash :
    ∃ log, Log.ofResults relativeOptions [] relativeFiles = .ok log ∧
      ∃ left ∈ relativeFiles, ∃ right ∈ relativeFiles,
        IsRelative left.path ∧ IsRelative right.path ∧
          normalText (toSlashes left.path) ≠ normalText (toSlashes right.path) ∧
          relativeUri left.path relativeOptions.baseFolder =
            relativeUri right.path relativeOptions.baseFolder ∧
          ∃ index, PointsAt relativeOptions relativeFiles log.toJson left index ∧
            PointsAt relativeOptions relativeFiles log.toJson right index := by
  obtain ⟨log, built⟩ : ∃ log, Log.ofResults relativeOptions [] relativeFiles = .ok log := ⟨_, rfl⟩
  have sameUri : relativeUri relativeFiles[0].path relativeOptions.baseFolder =
      relativeUri relativeFiles[1].path relativeOptions.baseFolder := by decide
  refine ⟨log, built, relativeFiles[0], List.getElem_mem _, relativeFiles[1], List.getElem_mem _,
    by decide, by decide, by decide, sameUri, ?_⟩
  apply (exists_pointsAt_iff built (List.getElem_mem _) (List.getElem_mem _) ?_ ?_).2 sameUri
  · decide
  · decide

end Sarif

end Findings
