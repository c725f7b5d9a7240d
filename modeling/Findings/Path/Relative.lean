import Findings.Path.Basic

/-!
Contract: how a file is named relative to a base folder.

Owns: `relativeUri`, the location of a file as a log shows it.  Backslashes count as slashes.  A file
under the base is named by the rest of its path; an absolute file outside an absolute base by going
up with `..`; every other file by its own normal path.  Nothing here looks at a file system.
-/

set_option autoImplicit false

namespace Findings

namespace Path

/-- The segments of `path` below `base`, when the base is a beginning of the path. -/
def below? : (base path : List Text) → Option (List Text)
  | [], path => some path
  | _ :: _, [] => none
  | a :: base, b :: path => if a = b then below? base path else none

/-- Go up from `base` to the longest common beginning, then down to `path`. -/
def upAndDown : (base path : List Text) → List Text
  | a :: base, b :: path =>
      if a = b then upAndDown base path
      else List.replicate (base.length + 1) up ++ b :: path
  | base, path => List.replicate base.length up ++ path

/-- A normal path as seen from a normal base. -/
def relativeTo (path base : Path) : Path :=
  match (if path.root = base.root then below? base.segments path.segments else none) with
  | some rest => ⟨.relative, rest⟩
  | none =>
      if path.isAbsolute && base.isAbsolute then
        ⟨.relative, upAndDown base.segments path.segments⟩
      else path

end Path

/-- Read backslashes as slashes. -/
def toSlashes (text : Text) : Text :=
  text.map fun c => if c = CodePoint.ofChar '\\' then Path.slash else c

/-- The normal path of a text in either spelling of the separator. -/
def normalPath (text : Text) : Path := (Path.ofText (toSlashes text)).normalize

/-- The location of a file relative to a base folder.  Without a base folder it is the normal path
of the file. -/
def relativeUri (path base : Text) : Text :=
  if toSlashes base = [] then (normalPath path).toText
  else ((normalPath path).relativeTo (normalPath base)).toText

end Findings
