import Findings.Path.Relative
import Findings.Proofs.Text.Joined

/-!
Contract: the location of a file is spelled with the segments of its path.

Owns:
- where the segments of a normal or relative path come from: from the path itself, besides `..`;
- `relativeTo_cases`, the three ways in which a path is seen from a base, and `relativeUri_eq`, by
  which a location is the path as seen from the base;
- `isJoined_relativeUri`: no surrogate pair comes about on the way from a path to its location.
-/

set_option autoImplicit false

namespace Findings

namespace Path

/-! ## Segments -/

/-- Normalisation makes no segments but `..`. -/
theorem mem_foldl_push {root : Root} {stack segments : List Text} {segment : Text}
    (member : segment ∈ segments.foldl (push root) stack) :
    segment = up ∨ segment ∈ stack ∨ segment ∈ segments := by
  induction segments generalizing stack with
  | nil => exact .inr (.inl member)
  | cons next segments inductionHypothesis =>
      have pushed : ∀ other, other ∈ push root stack next →
          other = up ∨ other ∈ stack ∨ other = next := by
        intro other isPushed
        unfold push at isPushed
        split at isPushed
        · split at isPushed
          · split at isPushed
            · exact .inl (List.mem_singleton.1 isPushed)
            · cases isPushed
          · split at isPushed
            · rcases List.mem_cons.1 isPushed with isUp | inStack
              · exact .inl isUp
              · exact .inr (.inl inStack)
            · exact .inr (.inl (List.mem_cons_of_mem _ isPushed))
        · rcases List.mem_cons.1 isPushed with isNext | inStack
          · exact .inr (.inr isNext)
          · exact .inr (.inl inStack)
      rcases inductionHypothesis member with isUp | inStack | inRest
      · exact .inl isUp
      · rcases pushed segment inStack with isUp | inStack | isNext
        · exact .inl isUp
        · exact .inr (.inl inStack)
        · exact .inr (.inr (isNext ▸ List.mem_cons_self ..))
      · exact .inr (.inr (List.mem_cons_of_mem _ inRest))

theorem mem_normalize {path : Path} {segment : Text}
    (member : segment ∈ path.normalize.segments) : segment = up ∨ segment ∈ path.segments := by
  rcases mem_foldl_push (List.mem_reverse.1 member) with isUp | inNothing | inPath
  · exact .inl isUp
  · cases inNothing
  · exact .inr inPath

theorem below?_eq_some_iff {base path rest : List Text} :
    below? base path = some rest ↔ path = base ++ rest := by
  fun_induction below? base path with
  | case1 path => simp [eq_comm]
  | case2 => simp
  | case3 base a path inductionHypothesis => simp [inductionHypothesis]
  | case4 a base b path different => simp [Ne.symm different]

theorem mem_upAndDown {base path : List Text} {segment : Text}
    (member : segment ∈ upAndDown base path) : segment = up ∨ segment ∈ path := by
  fun_induction upAndDown base path with
  | case1 a base path inductionHypothesis =>
      rcases inductionHypothesis member with isUp | inPath
      · exact .inl isUp
      · exact .inr (List.mem_cons_of_mem _ inPath)
  | case2 =>
      rcases List.mem_append.1 member with isUp | inPath
      · exact .inl (List.eq_of_mem_replicate isUp)
      · exact .inr inPath
  | case3 =>
      rcases List.mem_append.1 member with isUp | inPath
      · exact .inl (List.eq_of_mem_replicate isUp)
      · exact .inr inPath

/-- A path is seen from a base as what is left of it below the base; else, if both start at a root,
by going up and down; else as it is. -/
theorem relativeTo_cases (path base : Path) :
    (∃ rest, path.root = base.root ∧ path.segments = base.segments ++ rest ∧
      path.relativeTo base = ⟨.relative, rest⟩) ∨
    (path.root ≠ .relative ∧ base.root ≠ .relative ∧
      path.relativeTo base = ⟨.relative, upAndDown base.segments path.segments⟩) ∨
    (¬ (path.root = base.root ∧ base.segments <+: path.segments) ∧
      (path.root = .relative ∨ base.root = .relative) ∧ path.relativeTo base = path) := by
  unfold relativeTo
  split
  · rename_i rest found
    split at found
    · rename_i sameRoot
      exact .inl ⟨rest, sameRoot, below?_eq_some_iff.1 found, rfl⟩
    · cases found
  · rename_i notFound
    split
    · rename_i bothAbsolute
      simp only [isAbsolute, Bool.and_eq_true, decide_eq_true_eq] at bothAbsolute
      exact .inr (.inl ⟨bothAbsolute.1, bothAbsolute.2, rfl⟩)
    · rename_i notBoth
      refine .inr (.inr ⟨?_, ?_, rfl⟩)
      · rintro ⟨sameRoot, rest, isRest⟩
        rw [if_pos sameRoot, below?_eq_some_iff.2 isRest.symm] at notFound
        cases notFound
      · simp only [isAbsolute, Bool.and_eq_true, decide_eq_true_eq, not_and_or, not_not] at notBoth
        exact notBoth

/-- A relative path has no segments but those of the path and `..`. -/
theorem mem_relativeTo {path base : Path} {segment : Text}
    (member : segment ∈ (path.relativeTo base).segments) :
    segment = up ∨ segment ∈ path.segments := by
  rcases relativeTo_cases path base with ⟨rest, _, isRest, isSeen⟩ | ⟨_, _, isSeen⟩ | ⟨_, _, isSeen⟩
  · rw [isSeen] at member
    rw [isRest]
    exact .inr (List.mem_append_right _ member)
  · rw [isSeen] at member
    exact mem_upAndDown member
  · rw [isSeen] at member
    exact .inr member

/-- From where relative paths start, every path is seen as it is. -/
theorem relativeTo_start (path : Path) : path.relativeTo ⟨.relative, []⟩ = path := by
  rcases relativeTo_cases path ⟨.relative, []⟩ with
    ⟨rest, sameRoot, isRest, isSeen⟩ | ⟨_, baseAbsolute, _⟩ | ⟨_, _, isSeen⟩
  · obtain ⟨root, segments⟩ := path
    cases sameRoot
    cases isRest
    exact isSeen
  · exact absurd rfl baseAbsolute
  · exact isSeen

/-! ## Surrogate pairs -/

theorem isSurrogate_slash : slash.isSurrogate = false := CodePoint.isSurrogate_ofChar '/'

theorem isJoined_segmentsOf {text : Text} (joined : text.IsJoined) :
    ∀ segment ∈ segmentsOf text, segment.IsJoined := by
  intro segment member
  exact joined.of_infix (Text.infix_of_mem_splitOn (List.mem_filter.1 member).1)

theorem isSurrogateFree_root (root : Root) : root.toText.IsSurrogateFree := by
  intro c member
  have isSlash : c = slash := by cases root <;> simp_all [Root.toText]
  rw [isSlash]
  exact isSurrogate_slash

theorem isJoined_toText {path : Path} (joined : ∀ segment ∈ path.segments, segment.IsJoined) :
    path.toText.IsJoined := by
  unfold toText
  split
  · exact Text.isJoined_ofString _
  · exact (isSurrogateFree_root _).append_isJoined (Text.isJoined_join isSurrogate_slash joined)

end Path

theorem isJoined_toSlashes {text : Text} (joined : text.IsJoined) : (toSlashes text).IsJoined := by
  refine joined.map fun c => ?_
  split
  · exact .inr Path.isSurrogate_slash
  · exact .inl rfl

theorem isJoined_normalPath {text : Text} (joined : text.IsJoined) :
    ∀ segment ∈ (normalPath text).segments, segment.IsJoined := by
  intro segment member
  rcases Path.mem_normalize member with isUp | inPath
  · rw [isUp]
    exact Text.isJoined_ofString _
  · exact Path.isJoined_segmentsOf (isJoined_toSlashes joined) segment inPath

/-- A location is the path as seen from the base; without a base that is from where relative paths
start. -/
theorem relativeUri_eq (path base : Text) :
    relativeUri path base = ((normalPath path).relativeTo (normalPath base)).toText := by
  unfold relativeUri
  split
  · rename_i noBase
    have isStart : normalPath base = ⟨.relative, []⟩ := by
      unfold normalPath
      rw [noBase]
      rfl
    rw [isStart, Path.relativeTo_start]
  · rfl

/-- **A joined path has a joined location**, relative to any base folder. -/
theorem isJoined_relativeUri {path : Text} (joined : path.IsJoined) (base : Text) :
    (relativeUri path base).IsJoined := by
  rw [relativeUri_eq]
  refine Path.isJoined_toText fun segment member => ?_
  rcases Path.mem_relativeTo member with isUp | inPath
  · rw [isUp]
    exact Text.isJoined_ofString _
  · exact isJoined_normalPath joined segment inPath

end Findings
