import Findings.Proofs.Path.Joined

/-!
Contract: the segments of written paths.

Owns:
- splitting at a separator that stands between two texts, and `Path.IsOpen`, a text that another can
  be put behind without touching its last segment;
- `Path.IsSegment`, a segment that normalisation and looking from a base keep whole;
- reading a written path, which gives its own segments (`segmentsOf_toText`), and the characters in
  it;
- which texts start at a root: those that begin with a slash.
-/

set_option autoImplicit false

namespace Findings

/-! ## Texts with slashes -/

namespace Text

theorem splitOn_cons (separator c : CodePoint) (text : Text) :
    splitOn separator (c :: text) =
      if c = separator then [] :: splitOn separator text
      else match splitOn separator text with
        | [] => [[c]]
        | part :: others => (c :: part) :: others := rfl

/-- A separator between two texts keeps their parts apart. -/
theorem splitOn_append_cons (separator : CodePoint) (left right : Text) :
    splitOn separator (left ++ separator :: right) =
      splitOn separator left ++ splitOn separator right := by
  induction left with
  | nil =>
      show splitOn separator (separator :: right) = [[]] ++ splitOn separator right
      rw [splitOn_cons, if_pos rfl]
      rfl
  | cons c left inductionHypothesis =>
      rw [List.cons_append, splitOn_cons, splitOn_cons, inductionHypothesis]
      by_cases isSeparator : c = separator
      · rw [if_pos isSeparator, if_pos isSeparator]
        rfl
      · rw [if_neg isSeparator, if_neg isSeparator]
        obtain ⟨first, others, isSplit, _⟩ := splitOn_infix separator left
        rw [isSplit]
        rfl

/-- A text without separators is its own only part. -/
theorem splitOn_of_not_mem {separator : CodePoint} {text : Text} (absent : separator ∉ text) :
    splitOn separator text = [text] := by
  induction text with
  | nil => rfl
  | cons c text inductionHypothesis =>
      have different : c ≠ separator := fun same => absent (same ▸ List.mem_cons_self ..)
      have absentBehind : separator ∉ text := fun member => absent (List.mem_cons_of_mem _ member)
      rw [splitOn_cons, if_neg different, inductionHypothesis absentBehind]

/-- No part holds a separator. -/
theorem not_mem_of_mem_splitOn {separator : CodePoint} {text part : Text}
    (member : part ∈ splitOn separator text) : separator ∉ part := by
  induction text generalizing part with
  | nil =>
      have isEmpty : part = [] := List.mem_singleton.1 member
      rw [isEmpty]
      exact List.not_mem_nil
  | cons c text inductionHypothesis =>
      obtain ⟨first, others, isSplit, _⟩ := splitOn_infix separator text
      have inText : ∀ other ∈ first :: others, separator ∉ other := by
        intro other isPart
        apply inductionHypothesis
        rw [isSplit]
        exact isPart
      rw [splitOn_cons, isSplit] at member
      by_cases isSeparator : c = separator
      · rw [if_pos isSeparator] at member
        rcases List.mem_cons.1 member with isEmpty | isPart
        · rw [isEmpty]
          exact List.not_mem_nil
        · exact inText part isPart
      · rw [if_neg isSeparator] at member
        rcases List.mem_cons.1 member with isFirst | isOther
        · rw [isFirst]
          intro inFirst
          rcases List.mem_cons.1 inFirst with isHead | inTail
          · exact isSeparator isHead.symm
          · exact inText first (List.mem_cons_self ..) inTail
        · exact inText part (List.mem_cons_of_mem _ isOther)

/-- A character of joined texts is one of the separator or of a text. -/
theorem mem_of_mem_join {separator : Text} {parts : List Text} {c : CodePoint}
    (member : c ∈ join separator parts) : c ∈ separator ∨ ∃ part ∈ parts, c ∈ part := by
  unfold join at member
  induction parts with
  | nil => cases member
  | cons first rest inductionHypothesis =>
      cases rest with
      | nil =>
          rw [List.intercalate_singleton] at member
          exact .inr ⟨first, List.mem_singleton_self first, member⟩
      | cons second others =>
          rw [List.intercalate_cons_cons, List.mem_append, List.mem_append] at member
          rcases member with (inFirst | inSeparator) | inRest
          · exact .inr ⟨first, List.mem_cons_self, inFirst⟩
          · exact .inl inSeparator
          · refine (inductionHypothesis inRest).imp_right ?_
            rintro ⟨part, isPart, inPart⟩
            exact ⟨part, List.mem_cons_of_mem _ isPart, inPart⟩

end Text

namespace Path

/-! ## Segments of a text -/

/-- A segment as paths hold it: it counts, and it is not two. -/
def IsSegment (segment : Text) : Prop := isProper segment = true ∧ slash ∉ segment

theorem isSegment_up : IsSegment up := by
  constructor
  · decide
  · decide

theorem isSegment_of_mem_segmentsOf {text segment : Text} (member : segment ∈ segmentsOf text) :
    IsSegment segment := by
  obtain ⟨isPart, proper⟩ := List.mem_filter.1 member
  exact ⟨proper, Text.not_mem_of_mem_splitOn isPart⟩

/-- Normalisation keeps segments whole. -/
theorem isSegment_normalize {path : Path} (whole : ∀ segment ∈ path.segments, IsSegment segment) :
    ∀ segment ∈ path.normalize.segments, IsSegment segment := by
  intro segment member
  rcases mem_normalize member with isUp | inPath
  · rw [isUp]
    exact isSegment_up
  · exact whole segment inPath

theorem isSegment_of_mem_normalize {text segment : Text}
    (member : segment ∈ (ofText text).normalize.segments) : IsSegment segment :=
  isSegment_normalize (fun _ isPart => isSegment_of_mem_segmentsOf isPart) segment member

/-- So does looking from a base. -/
theorem isSegment_relativeTo {path : Path} (whole : ∀ segment ∈ path.segments, IsSegment segment)
    (base : Path) : ∀ segment ∈ (path.relativeTo base).segments, IsSegment segment := by
  intro segment member
  rcases mem_relativeTo member with isUp | inPath
  · rw [isUp]
    exact isSegment_up
  · exact whole segment inPath

theorem segmentsOf_append_cons (left right : Text) :
    segmentsOf (left ++ slash :: right) = segmentsOf left ++ segmentsOf right := by
  unfold segmentsOf
  rw [Text.splitOn_append_cons, List.filter_append]

theorem segmentsOf_slash_cons (text : Text) : segmentsOf (slash :: text) = segmentsOf text :=
  segmentsOf_append_cons [] text

/-- A text that is empty or ends with a slash can be continued by a segment. -/
def IsOpen (text : Text) : Prop := text = [] ∨ text.getLast? = some slash

theorem segmentsOf_append_of_isOpen {front : Text} (isOpen : IsOpen front) (back : Text) :
    segmentsOf (front ++ back) = segmentsOf front ++ segmentsOf back := by
  rcases isOpen with isEmpty | endsWithSlash
  · rw [isEmpty]
    rfl
  · obtain ⟨start, isFront⟩ := List.getLast?_eq_some_iff.1 endsWithSlash
    have frontSegments : segmentsOf front = segmentsOf start := by
      rw [isFront, segmentsOf_append_cons]
      exact List.append_nil _
    rw [frontSegments, isFront, List.append_assoc, List.singleton_append, segmentsOf_append_cons]

theorem segmentsOf_segment {segment : Text} (whole : IsSegment segment) :
    segmentsOf segment = [segment] := by
  unfold segmentsOf
  rw [Text.splitOn_of_not_mem whole.2, List.filter_cons_of_pos whole.1, List.filter_nil]

/-- Segments that are joined by slashes are read one by one. -/
theorem segmentsOf_join {segments : List Text} (whole : ∀ segment ∈ segments, IsSegment segment) :
    segmentsOf (Text.join [slash] segments) = segments := by
  unfold Text.join
  induction segments with
  | nil => rfl
  | cons first rest inductionHypothesis =>
      have firstWhole := whole first (List.mem_cons_self ..)
      have restWhole := inductionHypothesis fun segment member =>
        whole segment (List.mem_cons_of_mem _ member)
      cases rest with
      | nil =>
          rw [List.intercalate_singleton]
          exact segmentsOf_segment firstWhole
      | cons second others =>
          rw [List.intercalate_cons_cons, List.append_assoc, List.singleton_append,
            segmentsOf_append_cons, segmentsOf_segment firstWhole, restWhole]
          rfl

/-- A written path is read with its own segments. -/
theorem segmentsOf_toText {path : Path} (whole : ∀ segment ∈ path.segments, IsSegment segment) :
    segmentsOf path.toText = path.segments := by
  unfold toText
  split
  · rename_i noSegments
    rw [noSegments]
    decide
  · cases path.root with
    | relative => exact segmentsOf_join whole
    | slash =>
        show segmentsOf (slash :: Text.join [slash] path.segments) = path.segments
        rw [segmentsOf_slash_cons, segmentsOf_join whole]
    | doubleSlash =>
        show segmentsOf (slash :: slash :: Text.join [slash] path.segments) = path.segments
        rw [segmentsOf_slash_cons, segmentsOf_slash_cons, segmentsOf_join whole]

/-- A character of a written path that is neither a slash nor a point is one of a segment. -/
theorem exists_mem_of_mem_toText {path : Path} {c : CodePoint} (member : c ∈ path.toText)
    (noSlash : c ≠ slash) (noPoint : c ∉ here) : ∃ segment ∈ path.segments, c ∈ segment := by
  unfold toText at member
  split at member
  · exact absurd member noPoint
  · rcases List.mem_append.1 member with inRoot | inSegments
    · exfalso
      revert inRoot
      cases path.root <;> simp [Root.toText, noSlash]
    · exact (Text.mem_of_mem_join inSegments).resolve_left (by simpa using noSlash)

/-- A text is an absolute path just when it begins with a slash. -/
theorem rootOf_eq_relative_iff (text : Text) :
    rootOf text = .relative ↔ text.head? ≠ some slash := by
  match text with
  | [] => simp [rootOf]
  | [a] => by_cases isSlash : a = slash <;> simp [rootOf, isSlash]
  | [a, b] =>
      by_cases isSlash : a = slash <;> by_cases isDouble : b = slash <;>
        simp [rootOf, isSlash, isDouble]
  | a :: b :: c :: rest =>
      by_cases isSlash : a = slash <;> by_cases isDouble : b = slash <;>
        by_cases isTriple : c = slash <;> simp [rootOf, isSlash, isDouble, isTriple]

theorem isAbsolute_ofText_iff (text : Text) :
    (ofText text).isAbsolute = true ↔ text.head? = some slash := by
  have sameRoot := rootOf_eq_relative_iff text
  show decide (rootOf text ≠ .relative) = true ↔ text.head? = some slash
  rw [decide_eq_true_eq, ne_eq, sameRoot, not_not]

/-- Whole segments are not joined to a text with a slash in front. -/
theorem head?_join_ne_slash {segments : List Text}
    (whole : ∀ segment ∈ segments, IsSegment segment) :
    (Text.join [slash] segments).head? ≠ some slash := by
  cases segments with
  | nil => decide
  | cons first rest =>
      intro startsWithSlash
      obtain ⟨proper, noSlash⟩ := whole first (List.mem_cons_self ..)
      cases first with
      | nil => exact absurd proper (by decide)
      | cons c others =>
          have isHead : c = slash := by
            cases rest <;> simpa [Text.join, List.intercalate_cons_cons] using startsWithSlash
          exact noSlash (isHead ▸ List.mem_cons_self ..)

/-- A path without a root is its segments joined, or `.` if there are none. -/
theorem toText_relative (segments : List Text) :
    (⟨.relative, segments⟩ : Path).toText =
      if segments = [] then here else Text.join [slash] segments := by
  cases segments with
  | nil => rfl
  | cons first rest => rfl

/-- A relative path is not written with a slash in front. -/
theorem head?_toText_of_relative {path : Path} (relative : path.root = .relative)
    (whole : ∀ segment ∈ path.segments, IsSegment segment) : path.toText.head? ≠ some slash := by
  obtain ⟨root, segments⟩ := path
  cases relative
  rw [toText_relative]
  split
  · decide
  · exact head?_join_ne_slash whole

end Path

end Findings
