import Findings.Text.Basic

/-!
Contract: slash-separated paths as segments below a root.

Owns:
- the type `Path`, reading it from text and writing it;
- normalisation, which cancels `..` against the segment before it;
- joining, parents and names.

Does not own: the expression of one path relative to another (`Findings.Path.Relative`), or whether
a path exists.
-/

set_option autoImplicit false

namespace Findings

/-- Where a path starts.  Two leading slashes are a root of their own, three and more are the same
as one. -/
inductive Path.Root where
  | relative
  | slash
  | doubleSlash
deriving DecidableEq, Repr

/-- A path without empty and `.` segments. -/
structure Path where
  root : Path.Root
  segments : List Text
deriving DecidableEq

namespace Path

def slash : CodePoint := CodePoint.ofChar '/'

/-- The segment that stays where it is. -/
def here : Text := Text.ofString "."

/-- The segment that goes to the parent. -/
def up : Text := Text.ofString ".."

/-- The root that the leading slashes of a text name. -/
def rootOf : Text → Root
  | [] => .relative
  | [a] => if a = slash then .slash else .relative
  | [a, b] =>
      if a = slash then (if b = slash then .doubleSlash else .slash) else .relative
  | a :: b :: c :: _ =>
      if a = slash then
        if b = slash ∧ c ≠ slash then .doubleSlash else .slash
      else .relative

/-- Whether a segment counts: empty ones and `.` do not. -/
def isProper (segment : Text) : Bool := segment ≠ [] && segment ≠ here

/-- The segments of a text that count. -/
def segmentsOf (text : Text) : List Text :=
  (Text.splitOn slash text).filter isProper

/-- Read a path.  Segments `..` are kept. -/
def ofText (text : Text) : Path := ⟨rootOf text, segmentsOf text⟩

/-- Whether a path starts at a root. -/
def isAbsolute (path : Path) : Bool := path.root ≠ .relative

/-- The slashes of a root. -/
def Root.toText : Root → Text
  | .relative => []
  | .slash => [Path.slash]
  | .doubleSlash => [Path.slash, Path.slash]

/-- Write a path.  The path of no segments and no root is written `.`. -/
def toText (path : Path) : Text :=
  match path.root, path.segments with
  | .relative, [] => here
  | root, segments => root.toText ++ Text.join [slash] segments

/-- Put one more segment behind a normal path whose segments are kept in reverse.  At a root, `..`
stays where it is. -/
def push (root : Root) (stack : List Text) (segment : Text) : List Text :=
  if segment = up then
    match stack with
    | [] => if root = .relative then [up] else []
    | top :: rest => if top = up then up :: top :: rest else rest
  else segment :: stack

/-- Cancel every `..` against the segment before it. -/
def normalize (path : Path) : Path :=
  ⟨path.root, (path.segments.foldl (push path.root) []).reverse⟩

/-- Continue a path by another one; an absolute path starts over. -/
def join (path other : Path) : Path :=
  if other.isAbsolute then other else ⟨path.root, path.segments ++ other.segments⟩

/-- The path without its last segment. -/
def parent (path : Path) : Path := ⟨path.root, path.segments.dropLast⟩

end Path

end Findings
