import Findings.Path.Basic

/-!
Contract: a tree of files and directories.

Owns:
- the type `Tree`, which tells what lies at which location;
- changes of a tree at one location, and what two trees differ in.

Does not own: the walk along a path and the operations that can fail (`Findings.Files.Access`).
-/

set_option autoImplicit false

namespace Findings.Files

/-- The names on the way from the root to a file or directory. -/
abbrev Location := List Text

inductive Node where
  | file (content : List UInt8)
  | directory
deriving DecidableEq

/-- What lies at which location.  The root itself, which is always a directory, is not listed. -/
abbrev Tree := List (Location × Node)

namespace Tree

/-- The node at a listed location. -/
def listed? (location : Location) : Tree → Option Node
  | [] => none
  | (known, node) :: rest => if known = location then some node else listed? location rest

/-- The node at a location. -/
def node? (tree : Tree) (location : Location) : Option Node :=
  if location = [] then some .directory else tree.listed? location

/-- Put a node at a location in the place of what lay there. -/
def put (location : Location) (node : Node) : Tree → Tree
  | [] => [(location, node)]
  | (known, old) :: rest =>
      if known = location then (known, node) :: rest else (known, old) :: put location node rest

/-- Put a directory at a location unless something lies there. -/
def addDirectory (tree : Tree) (location : Location) : Tree :=
  match tree.node? location with
  | some _ => tree
  | none => tree.put location .directory

/-- The locations above a location, the highest first. -/
def above (location : Location) : List Location :=
  (List.range location.length).map location.take

/-- Put a node at a location, and directories at the locations above it where nothing lies. -/
def withNode (tree : Tree) (location : Location) (node : Node) : Tree :=
  ((above location).foldl addDirectory tree).put location node

/-- The content of the file at a location. -/
def content? (tree : Tree) (location : Location) : Option (List UInt8) :=
  match tree.node? location with
  | some (.file content) => some content
  | _ => none

/-- The files of a tree that are new or have another content than in the tree before. -/
def changesSince (tree before : Tree) : List (Location × List UInt8) :=
  tree.filterMap fun (location, node) =>
    match node with
    | .file content =>
        if before.content? location = some content then none else some (location, content)
    | .directory => none

theorem listed?_put (location other : Location) (node : Node) (tree : Tree) :
    listed? other (put location node tree) =
      if other = location then some node else listed? other tree := by
  induction tree with
  | nil =>
      simp only [put, listed?]
      by_cases same : location = other
      · simp [same]
      · simp [same, Ne.symm same]
  | cons entry rest inductionHypothesis =>
      obtain ⟨known, old⟩ := entry
      by_cases here : known = location
      · subst here
        by_cases same : known = other
        · simp [put, listed?, same]
        · simp [put, listed?, same, Ne.symm same]
      · by_cases same : known = other
        · subst same
          simp [put, listed?, here]
        · simp [put, listed?, here, same, inductionHypothesis]

end Tree

end Findings.Files
