import Findings.Proofs.Files.Refusals

/-!
Contract: operations on two trees under two paths.

Owns:
- `AlikeFailure` and `AlikeResult`, operations that fail for the same cause under paths that stand in
  a relation, or succeed with trees that stand in one;
- `MakesAlike`, what two relations on trees and paths need so that making one directory does the same
  on both sides;
- `makeDirectories_alike`: making directories then does the same as well.
-/

set_option autoImplicit false

namespace Findings.Files

/-- Failures of the same cause, or the same failure if its path is none. -/
inductive AlikeFailure (paths : Path → Path → Prop) : Failure → Failure → Prop where
  | refused (cause : Cause) {left right : Path} (related : paths left right) :
      AlikeFailure paths (.refused ⟨cause, left⟩) (.refused ⟨cause, right⟩)
  | same {failure : Failure} (noRefusal : ¬ failure.IsRefusal) : AlikeFailure paths failure failure

/-- Operations that fail alike, or make related trees. -/
inductive AlikeResult (trees : Tree → Tree → Prop) (paths : Path → Path → Prop) :
    Except Failure Tree → Except Failure Tree → Prop where
  | error {left right : Failure} (alike : AlikeFailure paths left right) :
      AlikeResult trees paths (.error left) (.error right)
  | ok {left right : Tree} (related : trees left right) :
      AlikeResult trees paths (.ok left) (.ok right)

/-- Operations that leave related trees, and fail alike or not at all. -/
structure AlikeProgress (trees : Tree → Tree → Prop) (paths : Path → Path → Prop)
    (left right : Tree × Option Failure) : Prop where
  trees : trees left.1 right.1
  failures : Option.Rel (AlikeFailure paths) left.2 right.2

/-- Making one directory does the same on both sides. -/
structure MakesAlike (directory : Location) (trees : Tree → Tree → Prop)
    (paths : Path → Path → Prop) : Prop where
  make : ∀ {left right leftPath rightPath}, trees left right → paths leftPath rightPath →
    AlikeResult trees paths (makeDirectory left directory leftPath)
      (makeDirectory right directory rightPath)
  isThere : ∀ {left right leftPath rightPath}, trees left right → paths leftPath rightPath →
    isDirectory left directory leftPath = isDirectory right directory rightPath
  parent : ∀ {leftPath rightPath}, paths leftPath rightPath → leftPath.segments ≠ [] →
    paths leftPath.parent rightPath.parent

/-! ## One directory and those above it -/

section Above

variable {tree after : Tree} {directory : Location} {path : Path} {failure : Failure}

/-- A directory is missing above the path. -/
def Failure.IsMissing (failure : Failure) : Prop := ∃ path, failure = .refused ⟨.missing, path⟩

theorem makeDirectoriesAbove_of_ok (count : Nat)
    (made : makeDirectory tree directory path = .ok after) :
    makeDirectoriesAbove count tree directory path = (after, none) := by
  cases count <;> simp only [makeDirectoriesAbove, made]

theorem makeDirectoriesAbove_of_error (count : Nat)
    (failed : makeDirectory tree directory path = .error failure) (present : ¬ failure.IsMissing) :
    makeDirectoriesAbove count tree directory path =
      (tree, acceptDirectory tree directory path failure) := by
  cases failure with
  | refused fault =>
      obtain ⟨cause, place⟩ := fault
      cases cause with
      | missing => exact absurd ⟨place, rfl⟩ present
      | _ => cases count <;> simp only [makeDirectoriesAbove, failed]
  | nullCharacter => cases count <;> simp only [makeDirectoriesAbove, failed]
  | unencodable fault => cases count <;> simp only [makeDirectoriesAbove, failed]

theorem makeDirectoriesAbove_zero_of_missing
    (failed : makeDirectory tree directory path = .error failure) (missing : failure.IsMissing) :
    makeDirectoriesAbove 0 tree directory path = (tree, some (.refused ⟨.missing, path⟩)) := by
  obtain ⟨place, rfl⟩ := missing
  simp only [makeDirectoriesAbove, failed]

/-- Where one is missing, the directories above the path are made, and then the path is tried once
more. -/
theorem makeDirectoriesAbove_succ_of_missing (count : Nat)
    (failed : makeDirectory tree directory path = .error failure) (missing : failure.IsMissing) :
    makeDirectoriesAbove (count + 1) tree directory path =
      match makeDirectoriesAbove count tree directory path.parent with
      | (after, some failure) => (after, some failure)
      | (after, none) => makeDirectoriesAbove 0 after directory path := by
  obtain ⟨place, rfl⟩ := missing
  rw [makeDirectoriesAbove, failed]
  dsimp only
  rcases makeDirectoriesAbove count tree directory path.parent with ⟨after, _ | failure⟩
  · dsimp only
    rw [makeDirectoriesAbove]
  · rfl

theorem not_isMissing_of_checkPath (unchecked : checkPath path = .error failure) :
    ¬ failure.IsMissing := by
  rintro ⟨place, rfl⟩
  cases eq_nameTooLong_of_checkPath unchecked

/-- The same path is refused in the same way on both sides. -/
theorem alikeFailure_of_checkPath {paths : Path → Path → Prop} (related : paths path path)
    (unchecked : checkPath path = .error failure) : AlikeFailure paths failure failure := by
  cases failure with
  | refused fault =>
      rw [eq_nameTooLong_of_checkPath unchecked]
      exact .refused .nameTooLong related
  | nullCharacter => exact .same id
  | unencodable fault => exact .same id

/-- There is nothing above a path without segments. -/
theorem not_isMissing_of_noSegments (noSegments : path.segments = [])
    (failed : makeDirectory tree directory path = .error failure) : ¬ failure.IsMissing := by
  unfold makeDirectory placeOfNew at failed
  rw [noSegments] at failed
  rcases bind_eq_error_iff.1 failed with unchecked | ⟨_, _, refused⟩
  · exact not_isMissing_of_checkPath unchecked
  · cases refused
    rintro ⟨place, isMissing⟩
    cases isMissing

end Above

/-! ## Both sides -/

section Alike

variable {directory : Location} {trees : Tree → Tree → Prop} {paths : Path → Path → Prop}
  {left right : Tree} {leftPath rightPath : Path}

theorem acceptDirectory_alike (alike : MakesAlike directory trees paths)
    (related : trees left right) (relatedPaths : paths leftPath rightPath)
    {leftFailure rightFailure : Failure} (failures : AlikeFailure paths leftFailure rightFailure) :
    Option.Rel (AlikeFailure paths) (acceptDirectory left directory leftPath leftFailure)
      (acceptDirectory right directory rightPath rightFailure) := by
  have same := alike.isThere related relatedPaths
  cases failures with
  | refused cause relatedFaults =>
      unfold acceptDirectory
      dsimp only
      rw [same]
      cases isDirectory right directory rightPath with
      | true => exact Option.Rel.none
      | false => exact Option.Rel.some (.refused cause relatedFaults)
  | same noRefusal =>
      cases leftFailure with
      | refused => exact absurd trivial noRefusal
      | nullCharacter => exact Option.Rel.some (.same noRefusal)
      | unencodable => exact Option.Rel.some (.same noRefusal)

theorem AlikeFailure.isMissing_iff {leftFailure rightFailure : Failure}
    (failures : AlikeFailure paths leftFailure rightFailure) :
    leftFailure.IsMissing ↔ rightFailure.IsMissing := by
  cases failures with
  | refused cause related => simp [Failure.IsMissing]
  | same => rfl

/-- Where no directory is missing above the path, one try is enough. -/
theorem makeDirectoriesAbove_present (alike : MakesAlike directory trees paths)
    {leftCount rightCount : Nat} (related : trees left right)
    (relatedPaths : paths leftPath rightPath)
    (present : ∀ {failure}, makeDirectory left directory leftPath = .error failure →
      ¬ failure.IsMissing) :
    AlikeProgress trees paths (makeDirectoriesAbove leftCount left directory leftPath)
      (makeDirectoriesAbove rightCount right directory rightPath) := by
  have made := alike.make related relatedPaths
  generalize makesLeft : makeDirectory left directory leftPath = leftResult at made
  generalize makesRight : makeDirectory right directory rightPath = rightResult at made
  cases made with
  | ok relatedAfter =>
      rw [makeDirectoriesAbove_of_ok _ makesLeft, makeDirectoriesAbove_of_ok _ makesRight]
      exact ⟨relatedAfter, Option.Rel.none⟩
  | error failures =>
      have presentLeft := present makesLeft
      have presentRight := fun isMissing => presentLeft (failures.isMissing_iff.2 isMissing)
      rw [makeDirectoriesAbove_of_error _ makesLeft presentLeft,
        makeDirectoriesAbove_of_error _ makesRight presentRight]
      exact ⟨related, acceptDirectory_alike alike related relatedPaths failures⟩

/-- Where one is missing on the left it is missing on the right. -/
theorem exists_isMissing_right (alike : MakesAlike directory trees paths)
    (related : trees left right) (relatedPaths : paths leftPath rightPath) {failure : Failure}
    (failed : makeDirectory left directory leftPath = .error failure)
    (missing : failure.IsMissing) :
    ∃ other, makeDirectory right directory rightPath = .error other ∧ other.IsMissing := by
  have made := alike.make related relatedPaths
  rw [failed] at made
  generalize makesRight : makeDirectory right directory rightPath = rightResult at made
  cases made with
  | error failures => exact ⟨_, rfl, failures.isMissing_iff.1 missing⟩

/-- Trying one directory does the same on both sides. -/
theorem makeDirectoriesAbove_zero_alike (alike : MakesAlike directory trees paths)
    (related : trees left right) (relatedPaths : paths leftPath rightPath) :
    AlikeProgress trees paths (makeDirectoriesAbove 0 left directory leftPath)
      (makeDirectoriesAbove 0 right directory rightPath) := by
  by_cases missing : ∃ failure, makeDirectory left directory leftPath = .error failure ∧
      failure.IsMissing
  · obtain ⟨failure, failed, isMissing⟩ := missing
    obtain ⟨other, otherFailed, otherMissing⟩ :=
      exists_isMissing_right alike related relatedPaths failed isMissing
    rw [makeDirectoriesAbove_zero_of_missing failed isMissing,
      makeDirectoriesAbove_zero_of_missing otherFailed otherMissing]
    exact ⟨related, Option.Rel.some (.refused _ relatedPaths)⟩
  · exact makeDirectoriesAbove_present alike related relatedPaths
      fun failed isMissing => missing ⟨_, failed, isMissing⟩

/-- Making directories does the same on both sides, if the tries are enough for the left path.  The
induction is on their number on the left; one that is missing takes one on either side. -/
theorem makeDirectoriesAbove_alike (alike : MakesAlike directory trees paths)
    {leftCount rightCount : Nat} (related : trees left right)
    (relatedPaths : paths leftPath rightPath) (enough : leftPath.segments.length ≤ leftCount)
    (enoughRight : leftPath.segments.length ≤ rightCount) :
    AlikeProgress trees paths (makeDirectoriesAbove leftCount left directory leftPath)
      (makeDirectoriesAbove rightCount right directory rightPath) := by
  induction leftCount generalizing rightCount left right leftPath rightPath with
  | zero =>
      have noSegments : leftPath.segments = [] := List.length_eq_zero_iff.1 (Nat.le_zero.1 enough)
      exact makeDirectoriesAbove_present alike related relatedPaths
        fun failed => not_isMissing_of_noSegments noSegments failed
  | succ leftCount inductionHypothesis =>
      by_cases missing : ∃ failure, makeDirectory left directory leftPath = .error failure ∧
          failure.IsMissing
      · obtain ⟨failure, failed, isMissing⟩ := missing
        obtain ⟨other, otherFailed, otherMissing⟩ :=
          exists_isMissing_right alike related relatedPaths failed isMissing
        have hasSegment : leftPath.segments ≠ [] := fun noSegments =>
          not_isMissing_of_noSegments noSegments failed isMissing
        have positive := List.length_pos_iff.2 hasSegment
        have shorter : leftPath.parent.segments.length + 1 = leftPath.segments.length := by
          show leftPath.segments.dropLast.length + 1 = _
          rw [List.length_dropLast]
          omega
        obtain ⟨rightRest, isRest⟩ : ∃ rest, rightCount = rest + 1 :=
          ⟨rightCount - 1, by omega⟩
        subst isRest
        have above := inductionHypothesis related (alike.parent relatedPaths hasSegment) (by omega)
          (show leftPath.parent.segments.length ≤ rightRest by omega)
        rw [makeDirectoriesAbove_succ_of_missing leftCount failed isMissing,
          makeDirectoriesAbove_succ_of_missing rightRest otherFailed otherMissing]
        generalize makeDirectoriesAbove leftCount left directory leftPath.parent = leftAbove at above
        generalize makeDirectoriesAbove rightRest right directory rightPath.parent =
          rightAbove at above
        obtain ⟨leftAfter, leftFailure⟩ := leftAbove
        obtain ⟨rightAfter, rightFailure⟩ := rightAbove
        obtain ⟨relatedAfter, failures⟩ := above
        dsimp only at relatedAfter failures
        cases failures with
        | some alikeFailures => exact ⟨relatedAfter, Option.Rel.some alikeFailures⟩
        | none => exact makeDirectoriesAbove_zero_alike alike relatedAfter relatedPaths
      · exact makeDirectoriesAbove_present alike related relatedPaths
          fun failed isMissing => missing ⟨_, failed, isMissing⟩

/-- **Making directories.**  The right path has at least as many segments as the left one. -/
theorem makeDirectories_alike (alike : MakesAlike directory trees paths)
    (related : trees left right) (relatedPaths : paths leftPath rightPath)
    (longer : leftPath.segments.length ≤ rightPath.segments.length) :
    AlikeProgress trees paths (makeDirectories left directory leftPath)
      (makeDirectories right directory rightPath) :=
  makeDirectoriesAbove_alike alike related relatedPaths (Nat.le_refl _) longer

end Alike

end Findings.Files
