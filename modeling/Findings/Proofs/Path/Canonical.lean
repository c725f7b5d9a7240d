import Findings.Proofs.Path.Normal
import Mathlib.Logic.Relation

/-!
Contract: locations are canonical.

Owns:
- `Respells`, the changes of a spelling that leave a path what it is, and `normalText_of_respelled`;
- `IsCanonical`, what a location looks like: it is normal, and it says so in every segment;
- `relativeUri_isCanonical`: a location is canonical and its own location, and it depends on the
  file and on the base in no other way than through their normal forms.

Does not own: which file a location denotes (`Findings.Proofs.Path.Denotation`).
-/

set_option autoImplicit false

namespace Findings

namespace Path

/-! ## Spellings -/

/-- A longer spelling with a doubled slash, with a `.`, with a name that is taken back, or with a
slash at the end, and the shorter one without. -/
inductive Shortens : Text → Text → Prop where
  | doubledSlash (front back : Text) :
      Shortens (front ++ slash :: slash :: back) (front ++ slash :: back)
  | here {front : Text} (isOpen : IsOpen front) (back : Text) :
      Shortens (front ++ (here ++ slash :: back)) (front ++ back)
  | cancelled {front name : Text} (isOpen : IsOpen front) (whole : IsSegment name)
      (isName : name ≠ up) (back : Text) :
      Shortens (front ++ (name ++ slash :: (up ++ slash :: back))) (front ++ back)
  | trailingSlash (text : Text) : Shortens (text ++ [slash]) text

/-- One spelling is shorter than the other and starts at the same root. -/
def Respells (longer shorter : Text) : Prop :=
  Shortens longer shorter ∧ rootOf longer = rootOf shorter

/-- Spellings that come from each other by any number of changes, backslashes read as slashes. -/
def IsRespelled (left right : Text) : Prop :=
  Relation.EqvGen Respells (toSlashes left) (toSlashes right)

/-- A name that is taken back at once leaves no trace. -/
theorem push_up_push {name : Text} (isName : name ≠ up) (root : Root) (stack : List Text) :
    push root (push root stack name) up = stack := by
  simp [push, isName]

/-- **One change.**  It makes no difference to normalisation. -/
theorem foldl_push_of_shortens {longer shorter : Text} (shortens : Shortens longer shorter)
    (root : Root) (stack : List Text) :
    (segmentsOf longer).foldl (push root) stack = (segmentsOf shorter).foldl (push root) stack := by
  cases shortens with
  | doubledSlash front back =>
      rw [segmentsOf_append_cons, segmentsOf_append_cons, segmentsOf_slash_cons]
  | here isOpen back =>
      rw [segmentsOf_append_of_isOpen isOpen, segmentsOf_append_of_isOpen isOpen,
        segmentsOf_append_cons]
      rfl
  | @cancelled front name isOpen whole isName back =>
      rw [segmentsOf_append_of_isOpen isOpen, segmentsOf_append_of_isOpen isOpen,
        segmentsOf_append_cons, segmentsOf_append_cons, segmentsOf_segment whole,
        segmentsOf_segment isSegment_up]
      simp only [List.foldl_append, List.foldl_cons, List.foldl_nil, push_up_push isName]
  | trailingSlash =>
      rw [segmentsOf_append_cons]
      exact congrArg (List.foldl (push root) stack) (List.append_nil _)

/-- **Respelled texts have one normal form.** -/
theorem normalText_of_respelled {left right : Text}
    (respelled : Relation.EqvGen Respells left right) : normalText left = normalText right := by
  induction respelled with
  | rel longer shorter respells =>
      obtain ⟨shortens, sameRoot⟩ := respells
      unfold normalText normalize ofText
      rw [sameRoot, foldl_push_of_shortens shortens]
  | refl => rfl
  | symm _ _ _ inductionHypothesis => exact inductionHypothesis.symm
  | trans _ _ _ _ _ first second => exact first.trans second

end Path

/-! ## Backslashes -/

open Findings.Path

/-- The character that separates segments as a slash does. -/
def backslash : CodePoint := CodePoint.ofChar '\\'

theorem backslash_not_mem_toSlashes (text : Text) : backslash ∉ toSlashes text := by
  unfold toSlashes
  rw [List.mem_map]
  rintro ⟨c, -, isBackslash⟩
  split at isBackslash
  · exact absurd isBackslash (by decide)
  · rename_i different
    exact different isBackslash

theorem toSlashes_of_not_mem {text : Text} (absent : backslash ∉ text) : toSlashes text = text := by
  have kept : ∀ c ∈ text, (if c = CodePoint.ofChar '\\' then slash else c) = id c :=
    fun c member => if_neg fun isBackslash : c = backslash => absent (isBackslash ▸ member)
  unfold toSlashes
  rw [List.map_congr_left kept, List.map_id]

/-- No segment of a path as it is seen from a base holds a backslash. -/
theorem backslash_not_mem_relativeUri (path base : Text) : backslash ∉ relativeUri path base := by
  rw [relativeUri_eq]
  intro member
  obtain ⟨segment, isSegment, inSegment⟩ :=
    exists_mem_of_mem_toText member (by decide) (by decide)
  have inNormal : segment = up ∨ segment ∈ (normalPath path).segments := mem_relativeTo isSegment
  have inText : segment = up ∨ segment ∈ segmentsOf (toSlashes path) :=
    inNormal.elim .inl mem_normalize
  rcases inText with isUp | isPart
  · exact absurd (isUp ▸ inSegment) (by decide)
  · have infixOf := Text.infix_of_mem_splitOn (List.mem_filter.1 isPart).1
    exact backslash_not_mem_toSlashes path (infixOf.subset inSegment)

/-! ## Canonical locations -/

/-- A canonical location: not empty, without backslashes, its own normal form, and nothing but the
slashes of a root, then `..` if there is no root, and then names, or `.` alone. -/
structure IsCanonical (uri : Text) : Prop where
  notEmpty : uri ≠ []
  noBackslash : backslash ∉ uri
  normal : normalText uri = uri
  shape : ∃ (root : Root) (count : Nat) (names : List Text),
    uri = (⟨root, List.replicate count up ++ names⟩ : Path).toText ∧
      (∀ name ∈ names, IsSegment name ∧ name ≠ up) ∧ (root ≠ .relative → count = 0)

theorem Path.toText_ne_nil {path : Path} (whole : ∀ segment ∈ path.segments, IsSegment segment) :
    path.toText ≠ [] := by
  intro isEmpty
  have isRead := ofText_toText whole
  rw [isEmpty] at isRead
  rw [← isRead] at isEmpty
  exact absurd isEmpty (by decide)

/-- **A normal path without backslashes is written canonically.** -/
theorem isCanonical_toText {path : Path} (normal : path.IsNormal)
    (noBackslash : backslash ∉ path.toText) : IsCanonical path.toText := by
  obtain ⟨count, names, isPath, areNames⟩ := normal.climbsFirst.exists_eq
  refine {
    notEmpty := toText_ne_nil normal.whole
    noBackslash := noBackslash
    normal := normalText_toText normal
    shape := ⟨path.root, count, names, ?spelled, ?names, ?rooted⟩ }
  case spelled => rw [← isPath]
  case names =>
    intro name member
    have isSegment := normal.whole name (isPath ▸ List.mem_append_right _ member)
    exact ⟨isSegment, fun isUp => areNames (isUp ▸ member)⟩
  case rooted =>
    intro absolute
    have noUp := normal.rooted absolute
    cases count with
    | zero => rfl
    | succ count => exact absurd (by simp [isPath, List.replicate_succ]) noUp

/-- Texts with one normal form are one normal path. -/
theorem normalPath_eq_of_normalText {left right : Text}
    (sameForm : normalText (toSlashes left) = normalText (toSlashes right)) :
    normalPath left = normalPath right :=
  (toText_inj (isNormal_normalPath left).whole (isNormal_normalPath right).whole).1 sameForm

section Location

variable (path base : Text)

/-- A location is read as the path that it is written from. -/
theorem normalPath_relativeUri :
    normalPath (relativeUri path base) = (normalPath path).relativeTo (normalPath base) := by
  have normal := isNormal_relativeTo (isNormal_normalPath path) (normalPath base)
  have isRead :
      ofText (relativeUri path base) = (normalPath path).relativeTo (normalPath base) := by
    rw [relativeUri_eq, ofText_toText normal.whole]
  unfold normalPath
  rw [toSlashes_of_not_mem (backslash_not_mem_relativeUri path base), isRead]
  exact normalize_of_isNormal normal

/-- Seen from where relative paths start, a location is itself. -/
theorem relativeUri_relativeUri_start {start : Text}
    (isStart : normalPath start = ⟨.relative, []⟩) :
    relativeUri (relativeUri path base) start = relativeUri path base := by
  rw [relativeUri_eq _ start, isStart, relativeTo_start, normalPath_relativeUri, ← relativeUri_eq]

/-- Under an absolute base, a location is no absolute path. -/
theorem head?_relativeUri_of_absolute (baseAbsolute : (toSlashes base).head? = some slash) :
    (relativeUri path base).head? ≠ some slash := by
  rw [relativeUri_eq]
  exact head?_toText_of_relative (relativeTo_root_eq_relative baseAbsolute path)
    (isSegment_of_mem_relativeTo path base)

/-- **A location is canonical.**  It is its own location without a base, in the folder `.` and,
under an absolute base, in that; there it does not start at a root.  An empty base is as good as one
that comes to `.`.  Other spellings of the file and of the base with the same normal forms give the
same location, and respelling keeps normal forms. -/
theorem relativeUri_isCanonical :
    IsCanonical (relativeUri path base) ∧
      relativeUri (relativeUri path base) [] = relativeUri path base ∧
      relativeUri (relativeUri path base) here = relativeUri path base ∧
      (base = [] ∨ (toSlashes base).head? = some slash →
        relativeUri (relativeUri path base) base = relativeUri path base) ∧
      ((toSlashes base).head? = some slash → (relativeUri path base).head? ≠ some slash) ∧
      (∀ start, normalText (toSlashes start) = here →
        relativeUri path start = relativeUri path []) ∧
      (∀ otherPath otherBase, normalText (toSlashes otherPath) = normalText (toSlashes path) →
        normalText (toSlashes otherBase) = normalText (toSlashes base) →
          relativeUri otherPath otherBase = relativeUri path base) ∧
      ∀ left right, IsRespelled left right →
        normalText (toSlashes left) = normalText (toSlashes right) := by
  have noBase : normalPath [] = ⟨.relative, []⟩ := by decide
  refine ⟨?canonical, ?empty, ?point, ?again, head?_relativeUri_of_absolute path base, ?start,
    ?spelling, fun _ _ respelled => normalText_of_respelled respelled⟩
  case canonical =>
    have noBackslash := backslash_not_mem_relativeUri path base
    rw [relativeUri_eq] at noBackslash ⊢
    apply isCanonical_toText _ noBackslash
    exact isNormal_relativeTo (isNormal_normalPath path) (normalPath base)
  case empty => exact relativeUri_relativeUri_start path base noBase
  case point => exact relativeUri_relativeUri_start path base (by decide)
  case again =>
    rintro (isEmpty | baseAbsolute)
    · rw [isEmpty]
      exact relativeUri_relativeUri_start path [] noBase
    · have seen := relativeTo_of_relative (relativeTo_root_eq_relative baseAbsolute path)
        (root_normalPath_ne_relative baseAbsolute)
      rw [relativeUri_eq _ base, normalPath_relativeUri, seen, ← relativeUri_eq]
  case start =>
    intro start isStart
    have sameBase : normalPath start = normalPath [] := normalPath_eq_of_normalText isStart
    rw [relativeUri_eq, sameBase, ← relativeUri_eq]
  case spelling =>
    intro otherPath otherBase samePath sameBase
    rw [relativeUri_eq, normalPath_eq_of_normalText samePath, normalPath_eq_of_normalText sameBase,
      ← relativeUri_eq]

end Location

/-- A file outside of the base, and both of them in other spellings. -/
theorem relativeUri_isCanonical_sample :
    IsCanonical (relativeUri "/repo2\\a.js" "/repo/") ∧
      relativeUri (relativeUri "/repo2\\a.js" "/repo/") "/repo/" =
        relativeUri "/repo2\\a.js" "/repo/" ∧
      relativeUri "/x/../repo2//a.js/" "\\repo\\." = relativeUri "/repo2\\a.js" "/repo/" := by
  have canonical := relativeUri_isCanonical "/repo2\\a.js" "/repo/"
  refine ⟨canonical.1, canonical.2.2.2.1 (.inr (by decide)), ?_⟩
  exact canonical.2.2.2.2.2.2.1 "/x/../repo2//a.js/" "\\repo\\." (by decide) (by decide)

end Findings
