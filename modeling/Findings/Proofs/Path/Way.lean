import Findings.Proofs.Path.Denotation

/-!
Contract: the way from an absolute base folder to an absolute file.

Owns:
- `shared`, the names that two paths have in common at the front, which is the longest such list;
- `upAndDown_eq`: the way goes up out of the base as far as it differs from the path, and then down
  the rest of the path;
- `length_upAndDown_le`: no list of segments that leads from the base to the path is shorter;
- `relativeUri_isShortestWay`: a location spells this way, whether or not the path lies below the
  base.

That no list is shorter is an invariant of going along segments: one segment brings the place at most
one closer to the path, counted in segments of the way that is left.
-/

set_option autoImplicit false

namespace Findings

namespace Path

/-! ## What two paths share -/

/-- The segments that two paths have in common at the front. -/
def shared : (left right : List Text) → List Text
  | a :: left, b :: right => if a = b then a :: shared left right else []
  | _, _ => []

/-- Whatever two paths have in common at the front is a beginning of what they share. -/
theorem prefix_shared_iff {front left right : List Text} :
    front <+: shared left right ↔ front <+: left ∧ front <+: right := by
  fun_induction shared left right generalizing front with
  | case1 a left right inductionHypothesis =>
      cases front with
      | nil => simp
      | cons c front =>
          simp only [List.cons_prefix_cons, inductionHypothesis]
          tauto
  | case2 a left b right different =>
      cases front with
      | nil => simp
      | cons c front =>
          simp only [List.cons_prefix_cons, List.prefix_nil, reduceCtorEq, false_iff]
          rintro ⟨⟨isLeft, _⟩, isRight, _⟩
          exact different (isLeft.symm.trans isRight)
  | case3 left right atEnd =>
      cases left with
      | nil => simp +contextual
      | cons a left =>
          cases right with
          | nil => simp +contextual
          | cons b right => exact absurd rfl (atEnd a left b right rfl)

theorem shared_prefix_left (left right : List Text) : shared left right <+: left :=
  (prefix_shared_iff.1 List.prefix_rfl).1

theorem shared_prefix_right (left right : List Text) : shared left right <+: right :=
  (prefix_shared_iff.1 List.prefix_rfl).2

/-- A path begins with the base just when they share all of the base. -/
theorem length_shared_eq_iff {base path : List Text} :
    (shared base path).length = base.length ↔ base <+: path := by
  constructor
  · intro sameLength
    have isBase := (shared_prefix_left base path).eq_of_length sameLength
    exact isBase ▸ shared_prefix_right base path
  · intro isBeginning
    have isShared : base <+: shared base path := prefix_shared_iff.2 ⟨List.prefix_rfl, isBeginning⟩
    exact Nat.le_antisymm (shared_prefix_left base path).length_le isShared.length_le

theorem shared_append_drop (base path : List Text) :
    shared base path ++ path.drop (shared base path).length = path :=
  List.prefix_iff_eq_append.1 (shared_prefix_right base path)

/-! ## Up and down -/

/-- **The way in one equation.**  It leaves as much of the base as is not shared and goes along what
is not shared of the path. -/
theorem upAndDown_eq (base path : List Text) :
    upAndDown base path =
      List.replicate (base.length - (shared base path).length) up ++
        path.drop (shared base path).length := by
  fun_induction upAndDown base path with
  | case1 a base path inductionHypothesis => simp [shared, inductionHypothesis]
  | case2 a base b path different => simp [shared, different]
  | case3 base path atEnd =>
      have nothing : shared base path = [] := by
        cases base with
        | nil => rfl
        | cons a base =>
            cases path with
            | nil => rfl
            | cons b path => exact absurd rfl (atEnd a base b path rfl)
      simp [nothing]

/-- One more segment of the base makes the way longer or shorter by one. -/
theorem length_upAndDown_concat (base path : List Text) (name : Text) :
    (upAndDown base path).length ≤ (upAndDown (base ++ [name]) path).length + 1 ∧
      (upAndDown (base ++ [name]) path).length ≤ (upAndDown base path).length + 1 := by
  fun_induction upAndDown base path with
  | case1 a base path inductionHypothesis => simpa [upAndDown] using inductionHypothesis
  | case2 a base b path different =>
      simp only [List.cons_append, upAndDown, if_neg different, List.length_append,
        List.length_replicate, List.length_cons, List.length_nil]
      omega
  | case3 base path atEnd =>
      cases base with
      | nil =>
          cases path with
          | nil => simp [upAndDown]
          | cons b path =>
              by_cases same : name = b
              · simp only [List.nil_append, upAndDown, if_pos same, List.length_append,
                  List.length_replicate, List.length_cons, List.length_nil]
                omega
              · simp [upAndDown, same]
      | cons a base =>
          cases path with
          | nil => simp [upAndDown]
          | cons b path => exact absurd rfl (atEnd a base b path rfl)

/-- **One segment.**  It makes the way that is left shorter by one at most. -/
theorem length_upAndDown_le_push {place : List Text} (names : up ∉ place) (path : List Text)
    (segment : Text) :
    (upAndDown place.reverse path).length ≤
      (upAndDown (push .slash place segment).reverse path).length + 1 := by
  rcases push_cases names segment with ⟨_, taken⟩ | ⟨_, put⟩
  · rw [taken]
    cases place with
    | nil => exact Nat.le_succ _
    | cons top rest =>
        rw [List.reverse_cons, List.tail_cons]
        exact (length_upAndDown_concat rest.reverse path top).2
  · rw [put, List.reverse_cons]
    exact (length_upAndDown_concat place.reverse path segment).1

/-- **Many segments.**  They make the way that is left shorter by their number at most. -/
theorem length_upAndDown_le_descend {place : List Text} (names : up ∉ place)
    (path segments : List Text) :
    (upAndDown place.reverse path).length ≤
      (upAndDown (descend place segments).reverse path).length + segments.length := by
  induction segments generalizing place with
  | nil => exact Nat.le_refl _
  | cons segment segments inductionHypothesis =>
      have one := length_upAndDown_le_push names path segment
      have others := inductionHypothesis (up_not_mem_push names segment)
      have isStep : descend place (segment :: segments) =
        descend (push .slash place segment) segments := rfl
      rw [isStep, List.length_cons]
      omega

/-- **No way is shorter.**  Segments that lead from a base to a path are no fewer than those that go
up and down. -/
theorem length_upAndDown_le {base path segments : List Text} (names : up ∉ base)
    (leads : descend base.reverse segments = path.reverse) :
    (upAndDown base path).length ≤ segments.length := by
  have reversedNames : up ∉ base.reverse := by rwa [List.mem_reverse]
  have bound := length_upAndDown_le_descend reversedNames path segments
  have arrived : upAndDown path path = [] :=
    upAndDown_of_below? (below?_eq_some_iff.2 (List.append_nil path).symm)
  rw [leads, List.reverse_reverse, List.reverse_reverse, arrived] at bound
  simpa using bound

/-- Of segments that go up first and down then, those behind the last `..` are all that go down. -/
theorem eq_of_climb_append_eq {count : Nat} {down front back : List Text} {name : Text}
    (names : up ∉ down) (isName : name ≠ up)
    (isWay : List.replicate count up ++ down = front ++ up :: name :: back) :
    down = name :: back := by
  induction count generalizing front with
  | zero =>
      have isDown : down = front ++ up :: name :: back := isWay
      exact absurd (by simp [isDown]) names
  | succ count inductionHypothesis =>
      rw [List.replicate_succ, List.cons_append] at isWay
      cases front with
      | cons first front => exact inductionHypothesis (List.cons.inj isWay).2
      | nil =>
          have isRest : List.replicate count up ++ down = name :: back := (List.cons.inj isWay).2
          cases count with
          | zero => exact isRest
          | succ count => exact absurd (List.cons.inj isRest).1.symm isName

/-- The name behind the last `..` is none that the base goes on with. -/
theorem shared_concat_not_prefix {base path front back : List Text} {name : Text}
    (pathNames : up ∉ path) (isName : name ≠ up)
    (isWay : upAndDown base path = front ++ up :: name :: back) :
    ¬ shared base path ++ [name] <+: base := by
  intro goesOn
  rw [upAndDown_eq] at isWay
  have isDown : path.drop (shared base path).length = name :: back := by
    apply eq_of_climb_append_eq _ isName isWay
    exact fun member => pathNames (List.mem_of_mem_drop member)
  have goesOnToo : shared base path ++ [name] <+: path := by
    refine ⟨back, ?_⟩
    rw [List.append_assoc, List.singleton_append, ← isDown, shared_append_drop]
  have tooLong := (prefix_shared_iff.2 ⟨goesOn, goesOnToo⟩).length_le
  rw [List.length_append, List.length_singleton] at tooLong
  omega

/-- The way goes up first just when the path does not lie below the base. -/
theorem head?_upAndDown_eq_up_iff {base path : List Text} (pathNames : up ∉ path) :
    (upAndDown base path).head? = some up ↔ ¬ base <+: path := by
  have bound := (shared_prefix_left base path).length_le
  rw [upAndDown_eq, ← length_shared_eq_iff]
  cases climbs : base.length - (shared base path).length with
  | zero =>
      have all : (shared base path).length = base.length := by omega
      rw [List.replicate_zero, List.nil_append]
      refine iff_of_false (fun isUp => ?_) (not_not.2 all)
      exact pathNames (List.mem_of_mem_drop (List.mem_of_mem_head? isUp))
  | succ count =>
      rw [List.replicate_succ]
      refine iff_of_true rfl ?_
      omega

end Path

/-! ## Locations -/

section Location

open Findings.Path

/-- The folder up to which the ways to a base and to a path are the same. -/
def commonFolder (path base : Text) : List Text :=
  shared (normalPath base).segments (normalPath path).segments

/-- Up out of the base to the common folder, and down from there to the path. -/
def shortestWay (path base : Text) : List Text :=
  List.replicate ((normalPath base).segments.length - (commonFolder path base).length) up ++
    (normalPath path).segments.drop (commonFolder path base).length

/-- A text spells the shortest way from a base to a path: in one equation, and by either of two
rules, one for paths below the base and one for all.  It goes up just when the path is not below the
base, it goes up no further than it has to, and no other relative text that denotes the path has
fewer segments. -/
structure IsShortestWay (path base uri : Text) : Prop where
  spelled : uri =
    if shortestWay path base = [] then here else Text.join [slash] (shortestWay path base)
  common_iff : ∀ folder, folder <+: commonFolder path base ↔
    folder <+: (normalPath base).segments ∧ folder <+: (normalPath path).segments
  below : ∀ rest, below? (normalPath base).segments (normalPath path).segments = some rest →
    uri = (⟨.relative, rest⟩ : Path).toText
  general : uri =
    (⟨.relative, upAndDown (normalPath base).segments (normalPath path).segments⟩ : Path).toText
  climbs_iff : (segmentsOf uri).head? = some up ↔
    ¬ (normalPath base).segments <+: (normalPath path).segments
  parts : ∀ front name back, segmentsOf uri = front ++ up :: name :: back → name ≠ up →
    ¬ commonFolder path base ++ [name] <+: (normalPath base).segments
  shortest : ∀ other : Text, other.head? ≠ some slash →
    placeIn (toSlashes base) other = placeIn (toSlashes base) (toSlashes path) →
      (segmentsOf uri).length ≤ (segmentsOf other).length

/-- **A location is the shortest way.**  An absolute path is seen from an absolute base, at whatever
roots the two start, by going up to the folder that they have in common and down again. -/
theorem relativeUri_isShortestWay {path base : Text}
    (pathAbsolute : (toSlashes path).head? = some slash)
    (baseAbsolute : (toSlashes base).head? = some slash) :
    IsShortestWay path base (relativeUri path base) := by
  have pathNames := up_not_mem_normalPath pathAbsolute
  have baseNames := up_not_mem_normalPath baseAbsolute
  have isWay : (normalPath path).relativeTo (normalPath base) =
      ⟨.relative, upAndDown (normalPath base).segments (normalPath path).segments⟩ :=
    relativeTo_of_absolute (root_normalPath_ne_relative pathAbsolute)
      (root_normalPath_ne_relative baseAbsolute)
  have general : relativeUri path base =
      (⟨.relative, upAndDown (normalPath base).segments (normalPath path).segments⟩ :
        Path).toText := by
    rw [relativeUri_eq, isWay]
  have segments : segmentsOf (relativeUri path base) =
      upAndDown (normalPath base).segments (normalPath path).segments := by
    have whole := isSegment_of_mem_relativeTo path base
    rw [isWay] at whole
    rw [general, segmentsOf_toText whole]
  refine {
    spelled := ?spelled
    common_iff := fun folder => prefix_shared_iff
    below := ?below
    general := general
    climbs_iff := ?climbs_iff
    parts := ?parts
    shortest := ?shortest }
  case spelled =>
    rw [general, toText_relative, upAndDown_eq]
    rfl
  case below =>
    intro rest isBelow
    rw [general, upAndDown_of_below? isBelow]
  case climbs_iff =>
    rw [segments]
    exact head?_upAndDown_eq_up_iff pathNames
  case parts =>
    intro front name back isWay isName
    rw [segments] at isWay
    exact shared_concat_not_prefix pathNames isName isWay
  case shortest =>
    intro other relative samePlace
    rw [placeIn_of_relative baseAbsolute relative, placeIn_of_absolute baseAbsolute pathAbsolute]
      at samePlace
    rw [segments]
    apply length_upAndDown_le baseNames
    rw [← samePlace, List.reverse_reverse]

/-- A folder whose name begins with that of the base, and another root. -/
theorem relativeUri_isShortestWay_sample :
    (toSlashes "\\repo2\\lib\\..\\a.js").head? = some slash ∧
      (toSlashes "//repo/app/").head? = some slash ∧
      IsShortestWay "\\repo2\\lib\\..\\a.js" "//repo/app/"
        (relativeUri "\\repo2\\lib\\..\\a.js" "//repo/app/") ∧
      relativeUri "\\repo2\\lib\\..\\a.js" "//repo/app/" = "../../repo2/a.js" :=
  ⟨by decide, by decide, relativeUri_isShortestWay (by decide) (by decide), by decide⟩

end Location

end Findings
