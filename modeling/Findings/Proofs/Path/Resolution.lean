import Findings.Proofs.Path.Denotation

/-!
Contract: a base folder that was made normal before its backslashes were read as slashes.

Owns:
- `isSplit`, the segments that do not come to one name when backslashes separate names too;
- `relativeUri_normalize`: a base folder can be made normal beforehand, if that takes back no segment
  that is split.

A `..` takes back one segment before backslashes are read as slashes, and one name afterwards.  That
is the same as long as the segment comes to one name.
-/

set_option autoImplicit false

namespace Findings

namespace Path

/-! ## Segments with backslashes -/

/-- The names that a segment stands for when backslashes separate names too. -/
def namesIn (segment : Text) : List Text := segmentsOf (toSlashes segment)

/-- A segment does not come to one name when its own `.` and `..` are cancelled.  That leaves out `..`,
which is no name. -/
def isSplit (segment : Text) : Bool :=
  decide (segment ≠ up) && match (normalize ⟨.relative, namesIn segment⟩).segments with
    | [name] => decide (name = up)
    | _ => true

/-- Going along a segment that is not split goes to one name. -/
theorem exists_name_of_not_isSplit {segment : Text} (name : segment ≠ up)
    (single : isSplit segment = false) :
    ∃ name ≠ up, ∀ place, descend place (namesIn segment) = name :: place := by
  unfold isSplit at single
  rw [decide_eq_true name, Bool.true_and] at single
  split at single
  · rename_i only isOnly
    have notUp : only ≠ up := of_decide_eq_false single
    refine ⟨only, notUp, fun place => ?_⟩
    have sameWay := descend_relative place [] (namesIn segment)
    rw [List.reverse_nil] at sameWay
    have normal : ((namesIn segment).foldl (push .relative) []).reverse = [only] := isOnly
    rw [normal, descend_cons_of_ne notUp] at sameWay
    exact sameWay.symm
  · cases single

theorem toSlashes_append_cons (left right : Text) :
    toSlashes (left ++ slash :: right) = toSlashes left ++ slash :: toSlashes right := by
  unfold toSlashes
  rw [List.map_append, List.map_cons]
  rfl

theorem segmentsOf_toSlashes_join (segments : List Text) :
    segmentsOf (toSlashes (Text.join [slash] segments)) = segments.flatMap namesIn := by
  unfold Text.join
  induction segments with
  | nil => rfl
  | cons first rest inductionHypothesis =>
      cases rest with
      | nil =>
          rw [List.intercalate_singleton, List.flatMap_singleton]
          rfl
      | cons second others =>
          rw [List.intercalate_cons_cons, List.append_assoc, List.singleton_append,
            toSlashes_append_cons, segmentsOf_append_cons, inductionHypothesis]
          rfl

/-- The names of an absolute path whose backslashes are read as slashes. -/
theorem segmentsOf_toSlashes_toText {path : Path} (absolute : path.root ≠ .relative) :
    segmentsOf (toSlashes path.toText) = path.segments.flatMap namesIn := by
  obtain ⟨root, segments⟩ := path
  cases root with
  | relative => exact absurd rfl absolute
  | slash =>
      show segmentsOf (slash :: toSlashes (Text.join [slash] segments)) = _
      rw [segmentsOf_slash_cons, segmentsOf_toSlashes_join]
  | doubleSlash =>
      show segmentsOf (slash :: slash :: toSlashes (Text.join [slash] segments)) = _
      rw [segmentsOf_slash_cons, segmentsOf_slash_cons, segmentsOf_toSlashes_join]

theorem head?_toSlashes_toText {path : Path} (absolute : path.root ≠ .relative) :
    (toSlashes path.toText).head? = some slash := by
  obtain ⟨root, segments⟩ := path
  cases root with
  | relative => exact absurd rfl absolute
  | slash => rfl
  | doubleSlash => rfl

/-! ## Taking back segments -/

/-- Going along segments comes by no more of a kind than there are. -/
theorem countP_descend_le {place : List Text} (names : up ∉ place) (kind : Text → Bool)
    (segments : List Text) :
    (descend place segments).countP kind ≤ place.countP kind + segments.countP kind := by
  induction segments generalizing place with
  | nil => exact Nat.le_refl _
  | cons segment segments inductionHypothesis =>
      have rest := inductionHypothesis (up_not_mem_push names segment)
      have one : (push .slash place segment).countP kind ≤
          place.countP kind + [segment].countP kind := by
        rcases push_cases names segment with ⟨_, taken⟩ | ⟨_, put⟩
        · rw [taken]
          exact Nat.le_add_right_of_le (List.tail_sublist place).countP_le
        · rw [put, List.countP_cons, List.countP_singleton]
      have split : (segment :: segments).countP kind =
          [segment].countP kind + segments.countP kind := by
        rw [← List.countP_append, List.singleton_append]
      show (descend (push .slash place segment) segments).countP kind ≤ _
      omega

theorem namesIn_up : namesIn up = [up] := by decide

/-- **Taking back whole names.**  Where no split segment is taken back, going along segments and then
reading their names leads where going along the names leads. -/
theorem descend_flatMap_namesIn {place : List Text} (names : up ∉ place) {segments : List Text}
    (keeps : (descend place segments).countP isSplit =
      place.countP isSplit + segments.countP isSplit) :
    descend [] ((descend place segments).reverse.flatMap namesIn) =
      descend (descend [] (place.reverse.flatMap namesIn)) (segments.flatMap namesIn) := by
  induction segments generalizing place with
  | nil => rfl
  | cons segment segments inductionHypothesis =>
      have bound := countP_descend_le (up_not_mem_push names segment) isSplit segments
      have isStep : descend place (segment :: segments) =
        descend (push .slash place segment) segments := rfl
      rw [isStep, List.countP_cons] at keeps
      rw [isStep, List.flatMap_cons, descend_append]
      rcases push_cases names segment with ⟨rfl, taken⟩ | ⟨name, put⟩
      · have noName : isSplit up = false := by decide
        rw [noName, if_neg Bool.false_ne_true, Nat.add_zero] at keeps
        rw [namesIn_up]
        cases place with
        | nil => exact inductionHypothesis List.not_mem_nil keeps
        | cons top rest =>
            replace taken : push .slash (top :: rest) up = rest := taken
            rw [taken] at keeps bound ⊢
            rw [List.countP_cons] at keeps
            have single : isSplit top = false := by
              cases split : isSplit top with
              | false => rfl
              | true =>
                  rw [split, if_pos rfl] at keeps
                  omega
            rw [single, if_neg Bool.false_ne_true, Nat.add_zero] at keeps
            have topName : top ≠ up := fun isUp => names (isUp ▸ List.mem_cons_self)
            obtain ⟨name, notUp, isName⟩ := exists_name_of_not_isSplit topName single
            have namesBehind : up ∉ rest := fun member => names (List.mem_cons_of_mem _ member)
            rw [inductionHypothesis namesBehind keeps, List.reverse_cons, List.flatMap_append,
              List.flatMap_singleton, descend_append, isName]
            show _ = descend (push .slash (name :: descend [] (rest.reverse.flatMap namesIn)) up) _
            unfold push
            rw [if_pos rfl]
            dsimp only
            rw [if_neg notUp]
      · have namesPut : up ∉ segment :: place := put ▸ up_not_mem_push names segment
        rw [put] at keeps ⊢
        have keepsPut : (descend (segment :: place) segments).countP isSplit =
            (segment :: place).countP isSplit + segments.countP isSplit := by
          rw [List.countP_cons]
          omega
        rw [inductionHypothesis namesPut keepsPut, List.reverse_cons, List.flatMap_append,
          List.flatMap_singleton, descend_append]

/-- Making a path normal takes back no segment that is split. -/
def KeepsSplit (path : Path) : Prop :=
  path.normalize.segments.countP isSplit = path.segments.countP isSplit

end Path

/-! ## Base folders -/

section Bases

open Findings.Path

/-- Only the names of an absolute base matter for a location. -/
theorem relativeUri_congr {base other : Text} (absolute : (toSlashes base).head? = some slash)
    (otherAbsolute : (toSlashes other).head? = some slash)
    (sameNames : (normalPath base).segments = (normalPath other).segments) (path : Text) :
    relativeUri path base = relativeUri path other := by
  have baseRoot := root_normalPath_ne_relative absolute
  have otherRoot := root_normalPath_ne_relative otherAbsolute
  rw [relativeUri_eq, relativeUri_eq]
  by_cases pathRoot : (normalPath path).root = .relative
  · rw [relativeTo_of_relative pathRoot baseRoot, relativeTo_of_relative pathRoot otherRoot]
  · rw [relativeTo_of_absolute pathRoot baseRoot, relativeTo_of_absolute pathRoot otherRoot,
      sameNames]

/-- The names of a written base, backslashes read as slashes. -/
theorem segments_normalPath_toText {base : Path} (absolute : base.root ≠ .relative) :
    (normalPath base.toText).segments =
      (descend [] (base.segments.flatMap namesIn)).reverse := by
  rw [segments_normalPath (head?_toSlashes_toText absolute), segmentsOf_toSlashes_toText absolute]

/-- **A base folder made normal beforehand.**  Locations relative to it are those relative to the
folder as it is written, at whatever root, if no split segment is taken back. -/
theorem relativeUri_normalize {base other : Path} (absolute : base.root ≠ .relative)
    (otherAbsolute : other.root ≠ .relative) (same : base.segments = other.segments)
    (keeps : base.KeepsSplit) (path : Text) :
    relativeUri path base.normalize.toText = relativeUri path other.toText := by
  have normalAbsolute : base.normalize.root ≠ .relative := absolute
  have kept : (descend [] base.segments).countP isSplit =
      ([] : List Text).countP isSplit + base.segments.countP isSplit := by
    unfold KeepsSplit at keeps
    rw [normalize_segments_of_absolute absolute, List.countP_reverse] at keeps
    rw [keeps, List.countP_nil, Nat.zero_add]
  apply relativeUri_congr (head?_toSlashes_toText normalAbsolute)
    (head?_toSlashes_toText otherAbsolute)
  rw [segments_normalPath_toText normalAbsolute, segments_normalPath_toText otherAbsolute,
    normalize_segments_of_absolute absolute, descend_flatMap_namesIn List.not_mem_nil kept, same]
  rfl

end Bases

end Findings
