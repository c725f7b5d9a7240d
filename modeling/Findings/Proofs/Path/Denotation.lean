import Findings.Proofs.Path.Segments

/-!
Contract: the file that a location denotes.

Owns:
- `placeIn`, the file that a text denotes when it is read inside a folder: the text is put behind the
  folder, and the whole is made normal;
- `placeIn_relativeUri`: the location of a file, read inside the base folder, denotes the file;
- `relativeUri_eq_of_same_place`: absolute paths that denote one file have one location.

The argument is about `descend`, which goes along segments from a place below a root.  Going up from
the base as often as it has segments leaves nothing of it, and a `..` that normalisation could not
cancel is cancelled once there is a place to go up from.
-/

set_option autoImplicit false

namespace Findings

namespace Path

/-! ## Reading a text inside a folder -/

/-- A text put behind a folder; a text that starts at a root is left alone. -/
def inside (folder text : Text) : Text :=
  if text.head? = some slash then text
  else if folder = [] ∨ folder.getLast? = some slash then folder ++ text
  else folder ++ slash :: text

/-- The normal spelling of a path. -/
def normalText (text : Text) : Text := (ofText text).normalize.toText

/-- The file that a text denotes inside a folder, as the segments on the way to it. -/
def placeIn (folder text : Text) : List Text := segmentsOf (normalText (inside folder text))

theorem inside_of_absolute {folder text : Text} (absolute : text.head? = some slash) :
    inside folder text = text :=
  if_pos absolute

theorem segmentsOf_inside {folder text : Text} (relative : text.head? ≠ some slash) :
    segmentsOf (inside folder text) = segmentsOf folder ++ segmentsOf text := by
  unfold inside
  rw [if_neg relative]
  split
  · rename_i isOpen
    exact segmentsOf_append_of_isOpen isOpen text
  · exact segmentsOf_append_cons folder text

theorem head?_inside {folder : Text} (absolute : folder.head? = some slash) (text : Text) :
    (inside folder text).head? = some slash := by
  unfold inside
  cases folder with
  | nil => cases absolute
  | cons c rest =>
      split
      · assumption
      · split
        · exact absolute
        · exact absolute

/-! ## Going along segments -/

/-- Go along segments from a place below a root, whose segments are kept in reverse. -/
def descend (place segments : List Text) : List Text := segments.foldl (push .slash) place

theorem descend_append (place front back : List Text) :
    descend place (front ++ back) = descend (descend place front) back :=
  List.foldl_append

theorem descend_cons_of_ne {segment : Text} (name : segment ≠ up) (place segments : List Text) :
    descend place (segment :: segments) = descend (segment :: place) segments := by
  show descend (push .slash place segment) segments = descend (segment :: place) segments
  unfold push
  rw [if_neg name]

/-- Segments that are names are all taken. -/
theorem descend_names {segments : List Text} (names : up ∉ segments) (place : List Text) :
    descend place segments = segments.reverse ++ place := by
  induction segments generalizing place with
  | nil => rfl
  | cons segment segments inductionHypothesis =>
      have name : segment ≠ up := fun same => names (same ▸ List.mem_cons_self ..)
      have namesBehind : up ∉ segments := fun member => names (List.mem_cons_of_mem _ member)
      rw [descend_cons_of_ne name, inductionHypothesis namesBehind, List.reverse_cons,
        List.append_assoc, List.singleton_append]

theorem push_up_of_names {place : List Text} (names : up ∉ place) :
    push .slash place up = place.tail := by
  cases place with
  | nil => rfl
  | cons top rest =>
      have name : top ≠ up := fun same => names (same ▸ List.mem_cons_self ..)
      show (if top = up then up :: top :: rest else rest) = rest
      rw [if_neg name]

/-- A `..` takes the last name of a place back, and anything else is put behind it. -/
theorem push_cases {place : List Text} (names : up ∉ place) (segment : Text) :
    segment = up ∧ push .slash place segment = place.tail ∨
      segment ≠ up ∧ push .slash place segment = segment :: place := by
  by_cases isUp : segment = up
  · rw [isUp]
    exact .inl ⟨rfl, push_up_of_names names⟩
  · unfold push
    rw [if_neg isUp]
    exact .inr ⟨isUp, rfl⟩

/-- A place below a root is made of names. -/
theorem up_not_mem_push {place : List Text} (names : up ∉ place) (segment : Text) :
    up ∉ push .slash place segment := by
  rcases push_cases names segment with ⟨_, taken⟩ | ⟨name, put⟩
  · rw [taken]
    exact fun member => names (List.mem_of_mem_tail member)
  · rw [put]
    simp [names, Ne.symm name]

theorem up_not_mem_descend {place : List Text} (names : up ∉ place) (segments : List Text) :
    up ∉ descend place segments := by
  induction segments generalizing place with
  | nil => exact names
  | cons segment segments inductionHypothesis =>
      exact inductionHypothesis (up_not_mem_push names segment)

/-- Going up as often as there are names takes all of them back. -/
theorem descend_climb {names : List Text} (areNames : up ∉ names) (place : List Text) :
    descend (names ++ place) (List.replicate names.length up) = place := by
  induction names with
  | nil => rfl
  | cons name names inductionHypothesis =>
      have isName : name ≠ up := fun same => areNames (same ▸ List.mem_cons_self ..)
      have namesBehind : up ∉ names := fun member => areNames (List.mem_cons_of_mem _ member)
      have back : push .slash (name :: (names ++ place)) up = names ++ place := by
        show (if name = up then up :: name :: (names ++ place) else names ++ place) = names ++ place
        rw [if_neg isName]
      show descend (push .slash (name :: (names ++ place)) up) (List.replicate names.length up) =
        place
      rw [back, inductionHypothesis namesBehind]

/-- Going up from the base to the common beginning and down again leads to the path. -/
theorem descend_upAndDown {base path : List Text} (baseNames : up ∉ base) (pathNames : up ∉ path)
    (place : List Text) :
    descend (base.reverse ++ place) (upAndDown base path) = descend place path := by
  fun_induction upAndDown base path generalizing place with
  | case1 base a path inductionHypothesis =>
      have name : a ≠ up := fun same => baseNames (same ▸ List.mem_cons_self ..)
      have baseBehind : up ∉ base := fun member => baseNames (List.mem_cons_of_mem _ member)
      have pathBehind : up ∉ path := fun member => pathNames (List.mem_cons_of_mem _ member)
      rw [List.reverse_cons, List.append_assoc, List.singleton_append,
        inductionHypothesis baseBehind pathBehind, descend_cons_of_ne name]
  | case2 a base b path different =>
      have reversedNames : up ∉ (a :: base).reverse := by rwa [List.mem_reverse]
      have climbed := descend_climb reversedNames place
      rw [List.length_reverse, List.length_cons] at climbed
      rw [descend_append, climbed]
  | case3 base path =>
      have reversedNames : up ∉ base.reverse := by rwa [List.mem_reverse]
      have climbed := descend_climb reversedNames place
      rw [List.length_reverse] at climbed
      rw [descend_append, climbed]

/-- Making a relative path normal before going along it makes no difference.  What is cancelled
early would have been cancelled on the way, and a `..` that stays is cancelled then. -/
theorem descend_relative (place pending segments : List Text) :
    descend place (segments.foldl (push .relative) pending).reverse =
      descend (descend place pending.reverse) segments := by
  induction segments generalizing pending with
  | nil => rfl
  | cons segment segments inductionHypothesis =>
      have oneMore : descend place (push .relative pending segment).reverse =
          push .slash (descend place pending.reverse) segment := by
        by_cases isUp : segment = up
        · cases pending with
          | nil =>
              rw [isUp]
              rfl
          | cons top rest =>
              by_cases topIsUp : top = up
              · have kept : push .relative (top :: rest) segment = up :: top :: rest := by
                  simp [push, isUp, topIsUp]
                rw [kept, List.reverse_cons, descend_append, isUp]
                rfl
              · have cancelled : push .relative (top :: rest) segment = rest := by
                  simp [push, isUp, topIsUp]
                rw [cancelled, List.reverse_cons, descend_append, descend_cons_of_ne topIsUp, isUp]
                show descend place rest.reverse =
                  if top = up then up :: top :: descend place rest.reverse
                  else descend place rest.reverse
                rw [if_neg topIsUp]
        · have taken : push .relative pending segment = segment :: pending := by
            unfold push
            rw [if_neg isUp]
          rw [taken, List.reverse_cons, descend_append]
          rfl
      show descend place (segments.foldl (push .relative) (push .relative pending segment)).reverse =
        descend (push .slash (descend place pending.reverse) segment) segments
      rw [inductionHypothesis, oneMore]

/-! ## Normal paths -/

/-- It makes no difference at which root a path starts. -/
theorem push_of_ne_relative {root : Root} (absolute : root ≠ .relative) :
    push root = push .slash := by
  funext place segment
  cases root with
  | relative => exact absurd rfl absolute
  | slash => rfl
  | doubleSlash => rfl

theorem normalize_segments_of_absolute {path : Path} (absolute : path.root ≠ .relative) :
    path.normalize.segments = (descend [] path.segments).reverse := by
  show (path.segments.foldl (push path.root) []).reverse = _
  rw [push_of_ne_relative absolute]
  rfl

theorem placeIn_eq {folder : Text} (absolute : folder.head? = some slash) (text : Text) :
    placeIn folder text = (descend [] (segmentsOf (inside folder text))).reverse := by
  have rooted : (ofText (inside folder text)).root ≠ .relative := by
    intro relative
    exact (rootOf_eq_relative_iff _).1 relative (head?_inside absolute text)
  unfold placeIn normalText
  rw [segmentsOf_toText fun segment member => isSegment_of_mem_normalize member,
    normalize_segments_of_absolute rooted]
  rfl

/-! ## A path seen from a base -/

theorem upAndDown_of_below? {base path rest : List Text} (found : below? base path = some rest) :
    upAndDown base path = rest := by
  fun_induction below? base path with
  | case1 path =>
      cases found
      exact List.nil_append _
  | case2 => cases found
  | case3 base a path inductionHypothesis =>
      rw [upAndDown, if_pos rfl]
      exact inductionHypothesis found
  | case4 => cases found

/-- An absolute path is seen from an absolute base by going up and down, also if it lies below the
base. -/
theorem relativeTo_of_absolute {path base : Path} (pathAbsolute : path.root ≠ .relative)
    (baseAbsolute : base.root ≠ .relative) :
    path.relativeTo base = ⟨.relative, upAndDown base.segments path.segments⟩ := by
  rcases relativeTo_cases path base with
    ⟨rest, _, isRest, isSeen⟩ | ⟨_, _, isSeen⟩ | ⟨_, relative, _⟩
  · rw [isSeen, upAndDown_of_below? (below?_eq_some_iff.2 isRest)]
  · exact isSeen
  · rcases relative with pathRelative | baseRelative
    · exact absurd pathRelative pathAbsolute
    · exact absurd baseRelative baseAbsolute

/-- A relative path is seen from an absolute base as it is. -/
theorem relativeTo_of_relative {path base : Path} (pathRelative : path.root = .relative)
    (baseAbsolute : base.root ≠ .relative) : path.relativeTo base = path := by
  rcases relativeTo_cases path base with
    ⟨_, sameRoot, _, _⟩ | ⟨pathAbsolute, _, _⟩ | ⟨_, _, isSeen⟩
  · exact absurd (sameRoot ▸ pathRelative) baseAbsolute
  · exact absurd pathRelative pathAbsolute
  · exact isSeen

end Path

open Findings.Path

section Location

variable {path base : Text}

theorem root_normalPath_ne_relative (absolute : (toSlashes path).head? = some slash) :
    (normalPath path).root ≠ .relative :=
  fun relative => (rootOf_eq_relative_iff _).1 relative absolute

/-- The normal form of an absolute path is where its segments lead. -/
theorem segments_normalPath (absolute : (toSlashes path).head? = some slash) :
    (normalPath path).segments = (descend [] (segmentsOf (toSlashes path))).reverse :=
  normalize_segments_of_absolute (root_normalPath_ne_relative absolute)

theorem up_not_mem_normalPath (absolute : (toSlashes path).head? = some slash) :
    up ∉ (normalPath path).segments := by
  rw [segments_normalPath absolute, List.mem_reverse]
  exact up_not_mem_descend List.not_mem_nil _

theorem relativeTo_root_eq_relative (baseAbsolute : (toSlashes base).head? = some slash)
    (path : Text) : ((normalPath path).relativeTo (normalPath base)).root = .relative := by
  have baseRoot := root_normalPath_ne_relative baseAbsolute
  by_cases pathRoot : (normalPath path).root = .relative
  · rw [relativeTo_of_relative pathRoot baseRoot]
    exact pathRoot
  · rw [relativeTo_of_absolute pathRoot baseRoot]

theorem isSegment_of_mem_relativeTo (path base : Text) :
    ∀ segment ∈ ((normalPath path).relativeTo (normalPath base)).segments, IsSegment segment :=
  isSegment_relativeTo (fun _ member => isSegment_of_mem_normalize member) (normalPath base)

/-- A text that starts at a root denotes what its names denote. -/
theorem placeIn_of_absolute (baseAbsolute : (toSlashes base).head? = some slash)
    (absolute : (toSlashes path).head? = some slash) :
    placeIn (toSlashes base) (toSlashes path) = (normalPath path).segments := by
  rw [placeIn_eq baseAbsolute, inside_of_absolute absolute, segments_normalPath absolute]

/-- A relative text leads on from the base. -/
theorem placeIn_of_relative (baseAbsolute : (toSlashes base).head? = some slash) {text : Text}
    (relative : text.head? ≠ some slash) :
    placeIn (toSlashes base) text =
      (descend (normalPath base).segments.reverse (segmentsOf text)).reverse := by
  rw [placeIn_eq baseAbsolute, segmentsOf_inside relative, descend_append,
    segments_normalPath baseAbsolute, List.reverse_reverse]

/-- **A location denotes its file.**  Read inside the base folder it leads where the path itself
leads. -/
theorem placeIn_relativeUri (baseAbsolute : (toSlashes base).head? = some slash) (path : Text) :
    placeIn (toSlashes base) (relativeUri path base) =
      placeIn (toSlashes base) (toSlashes path) := by
  have baseRoot := root_normalPath_ne_relative baseAbsolute
  have whole := isSegment_of_mem_relativeTo path base
  have uriRelative : (relativeUri path base).head? ≠ some slash := by
    rw [relativeUri_eq]
    exact head?_toText_of_relative (relativeTo_root_eq_relative baseAbsolute path) whole
  have uriSegments : segmentsOf (relativeUri path base) =
      ((normalPath path).relativeTo (normalPath base)).segments := by
    rw [relativeUri_eq, segmentsOf_toText whole]
  rw [placeIn_of_relative baseAbsolute uriRelative, uriSegments]
  by_cases pathAbsolute : (toSlashes path).head? = some slash
  · have pathRoot := root_normalPath_ne_relative pathAbsolute
    have pathNames := up_not_mem_normalPath pathAbsolute
    have climbed := descend_upAndDown (up_not_mem_normalPath baseAbsolute) pathNames []
    rw [List.append_nil] at climbed
    rw [placeIn_of_absolute baseAbsolute pathAbsolute, relativeTo_of_absolute pathRoot baseRoot,
      climbed, descend_names pathNames, List.append_nil, List.reverse_reverse]
  · have pathRoot : (normalPath path).root = .relative :=
      (rootOf_eq_relative_iff _).2 pathAbsolute
    have isNormal : (normalPath path).segments =
        ((segmentsOf (toSlashes path)).foldl (push .relative) []).reverse := by
      show ((segmentsOf (toSlashes path)).foldl (push (normalPath path).root) []).reverse = _
      rw [pathRoot]
    rw [placeIn_of_relative baseAbsolute pathAbsolute, relativeTo_of_relative pathRoot baseRoot,
      isNormal, descend_relative]
    rfl

/-- **Files at the same place have one location.**  Absolute paths differ in their locations only if
they denote different files. -/
theorem relativeUri_eq_of_same_place {left right : Text}
    (baseAbsolute : (toSlashes base).head? = some slash)
    (leftAbsolute : (toSlashes left).head? = some slash)
    (rightAbsolute : (toSlashes right).head? = some slash)
    (samePlace : placeIn (toSlashes base) (toSlashes left) =
      placeIn (toSlashes base) (toSlashes right)) :
    relativeUri left base = relativeUri right base := by
  have sameSegments : (normalPath left).segments = (normalPath right).segments := by
    rw [← placeIn_of_absolute baseAbsolute leftAbsolute, samePlace,
      placeIn_of_absolute baseAbsolute rightAbsolute]
  have baseRoot := root_normalPath_ne_relative baseAbsolute
  rw [relativeUri_eq, relativeUri_eq,
    relativeTo_of_absolute (root_normalPath_ne_relative leftAbsolute) baseRoot,
    relativeTo_of_absolute (root_normalPath_ne_relative rightAbsolute) baseRoot, sameSegments]

end Location

end Findings
