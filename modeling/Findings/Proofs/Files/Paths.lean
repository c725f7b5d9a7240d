import Findings.Files.Access
import Findings.Proofs.Except
import Findings.Proofs.Path.Segments

/-!
Contract: texts that are no paths.

Owns:
- `IsPathText`, which texts can be paths at all, and how that goes from a text to the segments read
  from it and back to a written path;
- `BreaksOff`, the failures other than a refusal: every operation has them just when its path is
  none.

Does not own: when an operation is refused.
-/

set_option autoImplicit false

namespace Findings.Files

/-! ## Texts -/

/-- A character of a path: no null character, and a surrogate only if it stands for a byte. -/
def IsPathCharacter (c : CodePoint) : Prop :=
  c.val ≠ 0 ∧ (c.isSurrogate = true → c.isEscapedByte = true)

/-- A text that can be a path. -/
def IsPathText (text : Text) : Prop := ∀ c ∈ text, IsPathCharacter c

instance (c : CodePoint) : Decidable (IsPathCharacter c) := by
  unfold IsPathCharacter
  infer_instance

instance (text : Text) : Decidable (IsPathText text) := by
  unfold IsPathText
  infer_instance

theorem unescapedRunFrom_eq_none_iff (position : Nat) (text : Text) :
    Text.unescapedRunFrom position text = none ↔
      ∀ c ∈ text, c.isSurrogate = true → c.isEscapedByte = true := by
  induction text generalizing position with
  | nil => simp [Text.unescapedRunFrom]
  | cons c text inductionHypothesis =>
      rw [Text.unescapedRunFrom, List.forall_mem_cons]
      cases surrogate : c.isSurrogate && !c.isEscapedByte with
      | true => simp_all
      | false =>
          have isByte : c.isSurrogate = true → c.isEscapedByte = true := by simp_all
          rw [if_neg Bool.false_ne_true, inductionHypothesis]
          exact ⟨fun rest => ⟨isByte, rest⟩, And.right⟩

theorem checkText_eq_ok_iff (text : Text) : checkText text = .ok () ↔ IsPathText text := by
  unfold checkText IsPathText IsPathCharacter
  cases run : Text.unescapedRun? text with
  | some fault =>
      have someSurrogate : ¬ ∀ c ∈ text, c.isSurrogate = true → c.isEscapedByte = true := by
        intro bytes
        rw [Text.unescapedRun?, (unescapedRunFrom_eq_none_iff 0 text).2 bytes] at run
        cases run
      constructor
      · intro accepted
        cases accepted
      · intro characters
        exact absurd (fun c member => (characters c member).2) someSurrogate
  | none =>
      have bytes := (unescapedRunFrom_eq_none_iff 0 text).1 run
      constructor
      · intro accepted c member
        refine ⟨fun null => ?_, bytes c member⟩
        have found : (text.any fun c => c.val = 0) = true :=
          List.any_eq_true.2 ⟨c, member, decide_eq_true null⟩
        rw [if_pos found] at accepted
        cases accepted
      · intro characters
        rw [if_neg]
        rw [List.any_eq_true]
        rintro ⟨c, member, null⟩
        exact (characters c member).1 (of_decide_eq_true null)

/-! ## Paths -/

theorem isPathText_append_iff {left right : Text} :
    IsPathText (left ++ right) ↔ IsPathText left ∧ IsPathText right :=
  List.forall_mem_append

theorem isPathText_join_iff (segments : List Text) :
    IsPathText (Text.join [Path.slash] segments) ↔ ∀ segment ∈ segments, IsPathText segment := by
  unfold Text.join
  induction segments with
  | nil => simp [IsPathText]
  | cons first rest inductionHypothesis =>
      cases rest with
      | nil => simp
      | cons second others =>
          have slashFits : IsPathText [Path.slash] := by decide
          rw [List.intercalate_cons_cons, isPathText_append_iff, isPathText_append_iff,
            inductionHypothesis, List.forall_mem_cons]
          simp [slashFits]

theorem isPathText_toText_iff (path : Path) :
    IsPathText path.toText ↔ ∀ segment ∈ path.segments, IsPathText segment := by
  have rootFits : ∀ root : Path.Root, IsPathText root.toText := by
    intro root
    cases root <;> decide
  unfold Path.toText
  split
  · rename_i noSegments
    have hereFits : IsPathText Path.here := by decide
    rw [noSegments]
    simp [hereFits]
  · rw [isPathText_append_iff, isPathText_join_iff]
    exact ⟨And.right, fun fits => ⟨rootFits _, fits⟩⟩

theorem isPathText_splitOn_iff (text : Text) :
    (∀ part ∈ Text.splitOn Path.slash text, IsPathText part) ↔ IsPathText text := by
  induction text with
  | nil => simp [Text.splitOn, IsPathText]
  | cons c text inductionHypothesis =>
      have cons_iff : ∀ rest : Text, IsPathText (c :: rest) ↔ IsPathCharacter c ∧ IsPathText rest :=
        fun _ => List.forall_mem_cons
      rw [cons_iff, ← inductionHypothesis, Text.splitOn_cons]
      by_cases isSlash : c = Path.slash
      · have slashFits : IsPathCharacter Path.slash := by decide
        have nothingFits : IsPathText [] := by decide
        rw [if_pos isSlash, List.forall_mem_cons, isSlash]
        exact ⟨fun fits => ⟨slashFits, fits.2⟩, fun fits => ⟨nothingFits, fits.2⟩⟩
      · obtain ⟨first, others, isSplit, _⟩ := Text.splitOn_infix Path.slash text
        rw [if_neg isSlash, isSplit]
        simp only [List.forall_mem_cons, cons_iff, and_assoc]

/-- A text can be a path just when the path that is read from it can be written as one. -/
theorem isPathText_ofText_iff (text : Text) :
    IsPathText (Path.ofText text).toText ↔ IsPathText text := by
  rw [isPathText_toText_iff, ← isPathText_splitOn_iff]
  show (∀ segment ∈ Path.segmentsOf text, _) ↔ _
  unfold Path.segmentsOf
  simp only [List.mem_filter, and_imp]
  refine forall₂_congr fun part _ => ⟨fun fits => ?_, fun fits _ => fits⟩
  by_cases proper : Path.isProper part = true
  · exact fits proper
  · -- What is left out is empty or a point.
    by_cases isEmpty : part = []
    · rw [isEmpty]
      decide
    · have isHere : part = Path.here := by
        by_contra other
        exact proper (by simp [Path.isProper, isEmpty, other])
      rw [isHere]
      decide

theorem isPathText_parent {path : Path} (fits : IsPathText path.toText) :
    IsPathText path.parent.toText := by
  rw [isPathText_toText_iff] at fits ⊢
  intro segment member
  exact fits segment ((List.dropLast_sublist _).subset member)

theorem isPathText_normalize {path : Path} (fits : ∀ segment ∈ path.segments, IsPathText segment) :
    IsPathText path.normalize.toText := by
  rw [isPathText_toText_iff]
  intro segment member
  rcases Path.mem_normalize member with isUp | inPath
  · rw [isUp]
    decide
  · exact fits segment inPath

/-! ## Operations -/

/-- The operation is refused; its path is one. -/
def Failure.IsRefusal : Failure → Prop
  | .refused _ => True
  | .nullCharacter | .unencodable _ => False

/-- The operation fails, and not because it is refused. -/
def BreaksOff {α : Type} (operation : Except Failure α) : Prop :=
  ∃ failure, operation = .error failure ∧ ¬ failure.IsRefusal

theorem breaksOff_checkText_iff (text : Text) : BreaksOff (checkText text) ↔ ¬ IsPathText text := by
  rw [← checkText_eq_ok_iff]
  constructor
  · rintro ⟨failure, failed, _⟩ accepted
    rw [accepted] at failed
    cases failed
  · intro notAccepted
    unfold checkText at notAccepted ⊢
    split
    · exact ⟨_, rfl, id⟩
    · split
      · exact ⟨_, rfl, id⟩
      · rename_i noRun noNull
        rw [noRun, if_neg noNull] at notAccepted
        exact absurd rfl notAccepted

/-- A path is checked in front of an operation that is refused at worst. -/
theorem breaksOff_checkPath_bind_iff {α : Type} (path : Path) {operation : Except Failure α}
    (refusedAtWorst : ∀ failure, operation = .error failure → failure.IsRefusal) :
    BreaksOff (checkPath path >>= fun _ => operation) ↔ ¬ IsPathText path.toText := by
  rw [← breaksOff_checkText_iff]
  unfold BreaksOff checkPath
  cases checkText path.toText with
  | error failure => simp
  | ok accepted =>
      constructor
      · rintro ⟨failure, failed, noRefusal⟩
        rw [ok_bind] at failed
        split at failed
        · cases failed
          exact absurd trivial noRefusal
        · exact absurd (refusedAtWorst failure failed) noRefusal
      · rintro ⟨failure, failed, _⟩
        cases failed

theorem breaksOff_readFile_iff (tree : Tree) (directory : Location) (path : Path) :
    BreaksOff (readFile tree directory path) ↔ ¬ IsPathText path.toText := by
  apply breaksOff_checkPath_bind_iff
  intro failure failed
  split at failed
  · cases failed
    trivial
  · split at failed <;> cases failed <;> trivial

theorem breaksOff_makeDirectory_iff (tree : Tree) (directory : Location) (path : Path) :
    BreaksOff (makeDirectory tree directory path) ↔ ¬ IsPathText path.toText := by
  apply breaksOff_checkPath_bind_iff
  intro failure failed
  split at failed
  · cases failed
    trivial
  · split at failed <;> cases failed
    trivial

theorem breaksOff_writeFile_iff (tree : Tree) (directory : Location) (path : Path)
    (content : List UInt8) :
    BreaksOff (writeFile tree directory path content) ↔ ¬ IsPathText path.toText := by
  apply breaksOff_checkPath_bind_iff
  intro failure failed
  split at failed
  · cases failed
    trivial
  · split at failed <;> cases failed
    trivial

theorem isRefusal_of_isPathText {α : Type} {operation : Except Failure α} {path : Path}
    (breaksOff_iff : BreaksOff operation ↔ ¬ IsPathText path.toText)
    (fits : IsPathText path.toText) {failure : Failure} (failed : operation = .error failure) :
    failure.IsRefusal := by
  by_contra noRefusal
  exact breaksOff_iff.1 ⟨failure, failed, noRefusal⟩ fits

theorem isRefusal_of_acceptDirectory {tree : Tree} {directory : Location} {path : Path}
    {failure left : Failure} (isRefusal : failure.IsRefusal)
    (remains : acceptDirectory tree directory path failure = some left) : left.IsRefusal := by
  cases failure with
  | refused fault =>
      unfold acceptDirectory at remains
      dsimp only at remains
      split at remains
      · cases remains
      · cases remains
        trivial
  | nullCharacter => cases isRefusal
  | unencodable => cases isRefusal

/-- Directories above a path are refused at worst; the parents of a path are paths as well. -/
theorem isRefusal_makeDirectoriesAbove (count : Nat) (tree : Tree) (directory : Location)
    {path : Path} (fits : IsPathText path.toText) {failure : Failure}
    (failed : (makeDirectoriesAbove count tree directory path).2 = some failure) :
    failure.IsRefusal := by
  have firstRefused : ∀ (tree : Tree) (failure : Failure),
      makeDirectory tree directory path = .error failure → failure.IsRefusal :=
    fun tree failure failed =>
      isRefusal_of_isPathText (breaksOff_makeDirectory_iff tree directory path) fits failed
  induction count generalizing tree path failure with
  | zero =>
      rw [makeDirectoriesAbove] at failed
      split at failed
      · cases failed
      · cases failed
        trivial
      · rename_i made
        exact isRefusal_of_acceptDirectory (firstRefused _ _ made) failed
  | succ count inductionHypothesis =>
      rw [makeDirectoriesAbove] at failed
      split at failed
      · cases failed
      · split at failed
        · rename_i aboveTree aboveFailure above
          cases failed
          have parentFits := isPathText_parent fits
          refine inductionHypothesis tree parentFits (by rw [above]) fun tree failure failed => ?_
          exact isRefusal_of_isPathText
            (breaksOff_makeDirectory_iff tree directory path.parent) parentFits failed
        · split at failed
          · cases failed
          · cases failed
            trivial
          · rename_i made
            exact isRefusal_of_acceptDirectory (firstRefused _ _ made) failed
      · rename_i made
        exact isRefusal_of_acceptDirectory (firstRefused _ _ made) failed

theorem makeDirectories_breaksOff_iff (tree : Tree) (directory : Location) (path : Path) :
    (∃ failure, (makeDirectories tree directory path).2 = some failure ∧ ¬ failure.IsRefusal) ↔
      ¬ IsPathText path.toText := by
  constructor
  · rintro ⟨failure, failed, noRefusal⟩ fits
    exact noRefusal (isRefusal_makeDirectoriesAbove _ tree directory fits failed)
  · intro unfit
    obtain ⟨failure, failed, noRefusal⟩ := (breaksOff_makeDirectory_iff tree directory path).2 unfit
    refine ⟨failure, ?_, noRefusal⟩
    unfold makeDirectories
    cases failure with
    | refused fault => exact absurd trivial noRefusal
    | nullCharacter => cases path.segments.length <;> simp [makeDirectoriesAbove, failed, acceptDirectory]
    | unencodable fault =>
        cases path.segments.length <;> simp [makeDirectoriesAbove, failed, acceptDirectory]

end Findings.Files
