import Findings.Proofs.Except
import Findings.Proofs.Files.Paths

/-!
Contract: the path that a refusal names.

Owns: `Fault.IsAbout`, and that an operation is refused under its own path, or under one above it when
directories are made; a file to be read under its own.  Before anything is looked at, that is because
the path is too long.

Does not own: which operations are refused, and for what cause.
-/

set_option autoImplicit false

namespace Findings.Files

section Refusals

variable {tree : Tree} {directory : Location} {path : Path} {fault : Fault}

/-- A refusal names the path or one above it. -/
def Fault.IsAbout (fault : Fault) (path : Path) : Prop := fault.path.segments <+: path.segments

/-- A path that is refused before anything is looked at is too long. -/
theorem eq_nameTooLong_of_checkPath {fault : Fault}
    (unchecked : checkPath path = .error (.refused fault)) : fault = ⟨.nameTooLong, path⟩ := by
  unfold checkPath at unchecked
  rcases bind_eq_error_iff.1 unchecked with noText | ⟨_, _, tooLong⟩
  · unfold checkText at noText
    split at noText
    · cases noText
    · split at noText <;> cases noText
  · split at tooLong
    · cases tooLong
      rfl
    · cases tooLong

/-- A file that cannot be read is refused under its own path. -/
theorem path_of_readFile (refused : readFile tree directory path = .error (.refused fault)) :
    fault.path = path := by
  unfold readFile at refused
  rcases bind_eq_error_iff.1 refused with unchecked | ⟨_, _, refused⟩
  · rw [eq_nameTooLong_of_checkPath unchecked]
  · split at refused
    · cases refused
      rfl
    · split at refused <;> cases refused <;> rfl

theorem isAbout_of_makeDirectory
    (refused : makeDirectory tree directory path = .error (.refused fault)) :
    fault.IsAbout path := by
  unfold makeDirectory at refused
  rcases bind_eq_error_iff.1 refused with unchecked | ⟨_, _, refused⟩
  · rw [eq_nameTooLong_of_checkPath unchecked]
    exact List.prefix_rfl
  · split at refused
    · cases refused
      exact List.prefix_rfl
    · split at refused <;> cases refused
      exact List.prefix_rfl

theorem isAbout_of_writeFile {content : List UInt8}
    (refused : writeFile tree directory path content = .error (.refused fault)) :
    fault.IsAbout path := by
  unfold writeFile at refused
  rcases bind_eq_error_iff.1 refused with unchecked | ⟨_, _, refused⟩
  · rw [eq_nameTooLong_of_checkPath unchecked]
    exact List.prefix_rfl
  · split at refused
    · cases refused
      exact List.prefix_rfl
    · split at refused <;> cases refused
      exact List.prefix_rfl

theorem isAbout_of_acceptDirectory {failure : Failure}
    (about : ∀ fault, failure = .refused fault → fault.IsAbout path)
    (remains : acceptDirectory tree directory path failure = some (.refused fault)) :
    fault.IsAbout path := by
  unfold acceptDirectory at remains
  split at remains
  · split at remains
    · cases remains
    · cases remains
      exact about _ rfl
  · cases remains
    exact about _ rfl

/-- The induction is on the number of directories that can be missing, each of which has a path above
the path. -/
theorem isAbout_of_makeDirectoriesAbove {count : Nat}
    (refused : (makeDirectoriesAbove count tree directory path).2 = some (.refused fault)) :
    fault.IsAbout path := by
  have first : ∀ {tree : Tree} {path : Path} {failure : Failure},
      makeDirectory tree directory path = .error failure →
      ∀ fault, failure = .refused fault → fault.IsAbout path := by
    rintro tree path _ failed fault rfl
    exact isAbout_of_makeDirectory failed
  induction count generalizing tree path with
  | zero =>
      rw [makeDirectoriesAbove] at refused
      split at refused
      · cases refused
      · cases refused
        exact List.prefix_rfl
      · rename_i failed
        exact isAbout_of_acceptDirectory (first failed) refused
  | succ count inductionHypothesis =>
      rw [makeDirectoriesAbove] at refused
      split at refused
      · cases refused
      · split at refused
        · rename_i above
          have aboutParent := inductionHypothesis (above ▸ refused)
          exact aboutParent.trans (List.dropLast_prefix _)
        · split at refused
          · cases refused
          · cases refused
            exact List.prefix_rfl
          · rename_i failed
            exact isAbout_of_acceptDirectory (first failed) refused
      · rename_i failed
        exact isAbout_of_acceptDirectory (first failed) refused

end Refusals

end Findings.Files
