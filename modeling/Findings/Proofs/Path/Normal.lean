import Findings.Proofs.Path.Way

/-!
Contract: normal paths.

Owns:
- `Path.IsNormal`, a path whose segments are whole, with `..` in front of all names and only in a
  path that does not start at a root;
- `isNormal_normalize` and `normalize_of_isNormal`: normalisation makes normal paths and leaves
  normal paths alone;
- `ofText_toText`: a path is read back from its text, so normal paths of one text are equal;
- `isNormal_relativeTo`: a normal path seen from a normal base is normal.

The invariant of normalisation is about the stack of segments that are kept: a `..` lies on nothing
but `..`.  A segment of a normal path is put on the stack whatever it is, which is why it stays.
-/

set_option autoImplicit false

namespace Findings

namespace Path

/-- A segment goes up only if all segments before it do. -/
def ClimbsFirst (segments : List Text) : Prop :=
  segments.Pairwise fun earlier later => later = up → earlier = up

/-- A path in normal form. -/
structure IsNormal (path : Path) : Prop where
  whole : ∀ segment ∈ path.segments, IsSegment segment
  climbsFirst : ClimbsFirst path.segments
  rooted : path.root ≠ .relative → up ∉ path.segments

theorem climbsFirst_of_names {segments : List Text} (names : up ∉ segments) :
    ClimbsFirst segments :=
  List.pairwise_of_forall_mem_list fun _ _ _ member isUp => absurd (isUp ▸ member) names

/-- Segments that go up first are some `..` and then names. -/
theorem ClimbsFirst.exists_eq {segments : List Text} (climbs : ClimbsFirst segments) :
    ∃ count names, segments = List.replicate count up ++ names ∧ up ∉ names := by
  induction segments with
  | nil => exact ⟨0, [], rfl, List.not_mem_nil⟩
  | cons segment segments inductionHypothesis =>
      obtain ⟨first, rest⟩ := List.pairwise_cons.1 climbs
      by_cases isUp : segment = up
      · obtain ⟨count, names, isRest, areNames⟩ := inductionHypothesis rest
        refine ⟨count + 1, names, ?_, areNames⟩
        rw [isUp, isRest, List.replicate_succ, List.cons_append]
      · refine ⟨0, segment :: segments, rfl, fun member => ?_⟩
        rcases List.mem_cons.1 member with isSegment | behind
        · exact isUp isSegment.symm
        · exact isUp (first up behind rfl)

/-! ## Normalisation -/

/-- **One segment.**  A `..` on the stack lies on nothing but `..`, and at a root there is none. -/
theorem climbsFirst_push {root : Root} {stack : List Text} (climbs : ClimbsFirst stack.reverse)
    (rooted : root ≠ .relative → up ∉ stack) (segment : Text) :
    ClimbsFirst (push root stack segment).reverse ∧
      (root ≠ .relative → up ∉ push root stack segment) := by
  unfold ClimbsFirst at climbs ⊢
  rw [List.pairwise_reverse] at climbs ⊢
  unfold push
  by_cases isUp : segment = up
  · rw [if_pos isUp]
    cases stack with
    | nil => by_cases relative : root = .relative <;> simp [relative]
    | cons top rest =>
        obtain ⟨onTop, below⟩ := List.pairwise_cons.1 climbs
        by_cases topIsUp : top = up
        · simp only [if_pos topIsUp]
          refine ⟨List.pairwise_cons.2 ⟨fun other member _ => ?_, climbs⟩, fun absolute => ?_⟩
          · rcases List.mem_cons.1 member with isTop | inRest
            · exact isTop.trans topIsUp
            · exact onTop other inRest topIsUp
          · exact absurd (topIsUp ▸ List.mem_cons_self) (rooted absolute)
        · simp only [if_neg topIsUp]
          exact ⟨below, fun absolute member => rooted absolute (List.mem_cons_of_mem _ member)⟩
  · rw [if_neg isUp]
    refine ⟨List.pairwise_cons.2 ⟨fun _ _ goesUp => absurd goesUp isUp, climbs⟩, ?_⟩
    intro absolute member
    rcases List.mem_cons.1 member with isSegment | inStack
    · exact isUp isSegment.symm
    · exact rooted absolute inStack

/-- **All segments.** -/
theorem climbsFirst_foldl_push {root : Root} {stack : List Text}
    (climbs : ClimbsFirst stack.reverse) (rooted : root ≠ .relative → up ∉ stack)
    (segments : List Text) :
    ClimbsFirst (segments.foldl (push root) stack).reverse ∧
      (root ≠ .relative → up ∉ segments.foldl (push root) stack) := by
  induction segments generalizing stack with
  | nil => exact ⟨climbs, rooted⟩
  | cons segment segments inductionHypothesis =>
      obtain ⟨climbsNext, rootedNext⟩ := climbsFirst_push climbs rooted segment
      exact inductionHypothesis climbsNext rootedNext

/-- **Normalisation makes normal paths.** -/
theorem isNormal_normalize {path : Path} (whole : ∀ segment ∈ path.segments, IsSegment segment) :
    path.normalize.IsNormal := by
  obtain ⟨climbs, rooted⟩ := @climbsFirst_foldl_push path.root [] .nil (fun _ => List.not_mem_nil)
    path.segments
  exact {
    whole := isSegment_normalize whole
    climbsFirst := climbs
    rooted := fun absolute member => rooted absolute (List.mem_reverse.1 member) }

/-- Segments that continue a stack in normal form are all put on it. -/
theorem foldl_push_of_climbsFirst {root : Root} {stack segments : List Text}
    (climbs : ClimbsFirst (stack.reverse ++ segments))
    (rooted : root ≠ .relative → up ∉ segments) :
    segments.foldl (push root) stack = segments.reverse ++ stack := by
  induction segments generalizing stack with
  | nil => rfl
  | cons segment segments inductionHypothesis =>
      have put : push root stack segment = segment :: stack := by
        unfold push
        by_cases isUp : segment = up
        · have relative : root = .relative := by
            by_contra absolute
            exact rooted absolute (isUp ▸ List.mem_cons_self)
          rw [if_pos isUp, isUp]
          cases stack with
          | nil => exact if_pos relative
          | cons top rest =>
              have topIsUp : top = up :=
                (List.pairwise_append.1 climbs).2.2 top (by simp) segment List.mem_cons_self isUp
              rw [topIsUp]
              exact if_pos rfl
        · rw [if_neg isUp]
      have climbsNext : ClimbsFirst ((segment :: stack).reverse ++ segments) := by
        rwa [List.reverse_cons, List.append_assoc, List.singleton_append]
      have rootedNext : root ≠ .relative → up ∉ segments := fun absolute member =>
        rooted absolute (List.mem_cons_of_mem _ member)
      rw [List.foldl_cons, put, inductionHypothesis climbsNext rootedNext, List.reverse_cons,
        List.append_assoc, List.singleton_append]

/-- **Normalisation leaves normal paths alone.** -/
theorem normalize_of_isNormal {path : Path} (normal : path.IsNormal) : path.normalize = path := by
  have sameSegments : (path.segments.foldl (push path.root) []).reverse = path.segments := by
    have climbs : ClimbsFirst (([] : List Text).reverse ++ path.segments) := normal.climbsFirst
    rw [foldl_push_of_climbsFirst climbs normal.rooted, List.append_nil, List.reverse_reverse]
  unfold normalize
  rw [sameSegments]

/-! ## Reading written paths -/

theorem rootOf_slash {text : Text} (noSlash : text.head? ≠ some slash) :
    rootOf (slash :: text) = .slash := by
  cases text with
  | nil => rfl
  | cons c rest =>
      have different : c ≠ slash := fun same => noSlash (congrArg some same)
      cases rest <;> simp [rootOf, different]

theorem rootOf_doubleSlash {text : Text} (noSlash : text.head? ≠ some slash) :
    rootOf (slash :: slash :: text) = .doubleSlash := by
  cases text with
  | nil => rfl
  | cons c rest =>
      have different : c ≠ slash := fun same => noSlash (congrArg some same)
      simp [rootOf, different]

/-- **A path is read back from its text.** -/
theorem ofText_toText {path : Path} (whole : ∀ segment ∈ path.segments, IsSegment segment) :
    ofText path.toText = path := by
  have sameRoot : rootOf path.toText = path.root := by
    obtain ⟨root, segments⟩ := path
    cases root with
    | relative => exact (rootOf_eq_relative_iff _).2 (head?_toText_of_relative rfl whole)
    | slash => exact rootOf_slash (head?_join_ne_slash whole)
    | doubleSlash => exact rootOf_doubleSlash (head?_join_ne_slash whole)
  unfold ofText
  rw [sameRoot, segmentsOf_toText whole]

/-- Paths that are written alike are equal. -/
theorem toText_inj {left right : Path} (leftWhole : ∀ segment ∈ left.segments, IsSegment segment)
    (rightWhole : ∀ segment ∈ right.segments, IsSegment segment) :
    left.toText = right.toText ↔ left = right := by
  constructor
  · intro sameText
    rw [← ofText_toText leftWhole, sameText, ofText_toText rightWhole]
  · exact congrArg toText

/-- **The text of a normal path is normal.** -/
theorem normalText_toText {path : Path} (normal : path.IsNormal) :
    normalText path.toText = path.toText := by
  unfold normalText
  rw [ofText_toText normal.whole, normalize_of_isNormal normal]

/-! ## Paths seen from a base -/

/-- **A normal path is seen as a normal path**, from whatever base. -/
theorem isNormal_relativeTo {path : Path} (normal : path.IsNormal) (base : Path) :
    (path.relativeTo base).IsNormal := by
  have whole := isSegment_relativeTo normal.whole base
  rcases relativeTo_cases path base with
    ⟨rest, _, isRest, isSeen⟩ | ⟨absolute, _, isSeen⟩ | ⟨_, _, isSeen⟩
  · rw [isSeen] at whole ⊢
    have climbs := normal.climbsFirst
    rw [isRest] at climbs
    exact {
      whole := whole
      climbsFirst := (List.pairwise_append.1 climbs).2.1
      rooted := fun absolute => absurd rfl absolute }
  · rw [isSeen] at whole ⊢
    refine { whole := whole, climbsFirst := ?_, rooted := fun absolute => absurd rfl absolute }
    show ClimbsFirst (upAndDown base.segments path.segments)
    have names : up ∉ path.segments.drop (shared base.segments path.segments).length :=
      fun member => normal.rooted absolute (List.mem_of_mem_drop member)
    rw [upAndDown_eq]
    apply List.pairwise_append.2
    refine ⟨List.pairwise_replicate.2 (.inr id), climbsFirst_of_names names, ?_⟩
    exact fun earlier inClimb _ _ _ => List.eq_of_mem_replicate inClimb
  · rw [isSeen]
    exact normal

end Path

open Findings.Path

theorem isNormal_normalPath (text : Text) : (normalPath text).IsNormal :=
  isNormal_normalize fun _ member => isSegment_of_mem_segmentsOf member

end Findings
