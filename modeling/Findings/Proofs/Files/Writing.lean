import Findings.Files.Access
import Findings.Proofs.Except

/-!
Contract: what making directories and writing a file leave of a tree.

Owns:
- `Tree.GainsDirectories`, the trees that have new directories and are otherwise the same: making
  directories leads to no others, however far it gets;
- `Tree.Replaces`, the trees in which one file has a content and the rest is the same but for new
  directories;
- `readFile_of_writeFile`: what is written under a path is read back under it.

A walk enters directories only, so it goes the same way in a tree that has more of them, and a file
never stands in its way where there was no directory.
-/

set_option autoImplicit false

namespace Findings.Files

/-! ## Putting a node -/

namespace Tree

theorem node?_put {location : Location} (inside : location ≠ []) (other : Location) (node : Node)
    (tree : Tree) :
    node? (tree.put location node) other =
      if other = location then some node else tree.node? other := by
  unfold node?
  by_cases isRoot : other = []
  · have different : other ≠ location := fun same => inside (same.symm.trans isRoot)
    rw [if_pos isRoot, if_neg different, if_pos isRoot]
  · rw [if_neg isRoot, if_neg isRoot]
    exact listed?_put location other node tree

/-- Whatever lies somewhere lies there still, and what is new is a directory. -/
def GainsDirectories (before after : Tree) : Prop :=
  ∀ location, after.node? location = before.node? location ∨
    before.node? location = none ∧ after.node? location = some .directory

theorem GainsDirectories.refl (tree : Tree) : tree.GainsDirectories tree := fun _ => .inl rfl

theorem GainsDirectories.trans {before middle after : Tree} (first : before.GainsDirectories middle)
    (second : middle.GainsDirectories after) : before.GainsDirectories after := by
  intro location
  rcases second location with same | ⟨absent, isDirectory⟩
  · rw [same]
    exact first location
  · rcases first location with unchanged | ⟨_, wasDirectory⟩
    · exact .inr ⟨unchanged.symm.trans absent, isDirectory⟩
    · rw [absent] at wasDirectory
      cases wasDirectory

theorem GainsDirectories.put {tree : Tree} {location : Location}
    (absent : tree.node? location = none) :
    tree.GainsDirectories (tree.put location .directory) := by
  have inside : location ≠ [] := by
    intro isRoot
    rw [isRoot] at absent
    cases absent
  intro other
  rw [node?_put inside]
  by_cases same : other = location
  · rw [if_pos same, same]
    exact .inr ⟨absent, rfl⟩
  · rw [if_neg same]
    exact .inl rfl

/-- Every file is there with the content that it had, and there is no other file. -/
theorem GainsDirectories.content? {before after : Tree} (gains : before.GainsDirectories after)
    (location : Location) : after.content? location = before.content? location := by
  unfold Tree.content?
  rcases gains location with same | ⟨absent, isDirectory⟩
  · rw [same]
  · rw [absent, isDirectory]

/-- A file has a content, and elsewhere there are new directories at most. -/
structure Replaces (before after : Tree) (location : Location) (content : List UInt8) : Prop where
  content : after.node? location = some (.file content)
  others : ∀ other ≠ location, after.node? other = before.node? other ∨
    before.node? other = none ∧ after.node? other = some .directory

theorem Replaces.of_gains {before middle after : Tree} {location : Location} {content : List UInt8}
    (gains : before.GainsDirectories middle) (replaces : middle.Replaces after location content) :
    before.Replaces after location content where
  content := replaces.content
  others := by
    intro other different
    rcases replaces.others other different with same | ⟨absent, isDirectory⟩
    · rw [same]
      exact gains other
    · rcases gains other with unchanged | ⟨_, wasDirectory⟩
      · exact .inr ⟨unchanged.symm.trans absent, isDirectory⟩
      · rw [absent] at wasDirectory
        cases wasDirectory

theorem Replaces.put {tree : Tree} {location : Location} (inside : location ≠ [])
    (content : List UInt8) :
    tree.Replaces (tree.put location (.file content)) location content where
  content := by rw [node?_put inside, if_pos rfl]
  others := by
    intro other different
    rw [node?_put inside, if_neg different]
    exact .inl rfl

end Tree

/-! ## Making directories -/

section Directories

variable {tree after : Tree} {directory : Location} {path : Path}

theorem gainsDirectories_makeDirectory (made : makeDirectory tree directory path = .ok after) :
    tree.GainsDirectories after := by
  unfold makeDirectory at made
  obtain ⟨_, _, made⟩ := bind_eq_ok_iff.1 made
  split at made
  · cases made
  · split at made
    · cases made
    · rename_i absent
      cases made
      exact .put absent

/-- The induction is on the number of directories above the path that can be missing. -/
theorem gainsDirectories_makeDirectoriesAbove (count : Nat) (tree : Tree) (path : Path) :
    tree.GainsDirectories (makeDirectoriesAbove count tree directory path).1 := by
  induction count generalizing tree path with
  | zero =>
      rw [makeDirectoriesAbove]
      split
      · rename_i made
        exact gainsDirectories_makeDirectory made
      · exact .refl tree
      · exact .refl tree
  | succ count inductionHypothesis =>
      have above := inductionHypothesis tree path.parent
      rw [makeDirectoriesAbove]
      split
      · rename_i made
        exact gainsDirectories_makeDirectory made
      · split
        · rename_i failed
          rw [failed] at above
          exact above
        · rename_i made
          rw [made] at above
          split
          · rename_i last
            exact above.trans (gainsDirectories_makeDirectory last)
          · exact above
          · exact above
      · exact .refl tree

theorem gainsDirectories_makeDirectories (tree : Tree) (directory : Location) (path : Path) :
    tree.GainsDirectories (makeDirectories tree directory path).1 :=
  gainsDirectories_makeDirectoriesAbove _ tree path

end Directories

/-! ## Walking in a tree that has grown -/

section Walks

variable {tree before after : Tree} {location here next start there : Location}
  {content : List UInt8} {name : Text} {names : List Text}

/-- A step of a walk leads out of a directory, to its parent or to something in it. -/
theorem enter_eq_ok_iff :
    enter tree here name = .ok next ↔ tree.node? here = some .directory ∧
      (name = Path.up ∧ next = here.dropLast ∨
        name ≠ Path.up ∧ isTooLong name = false ∧ next = here ++ [name] ∧
          tree.node? next ≠ none) := by
  unfold enter
  constructor
  · intro entered
    split at entered
    · rename_i isDirectory
      refine ⟨isDirectory, ?_⟩
      split at entered
      · rename_i isUp
        exact .inl ⟨isUp, (Except.ok.inj entered).symm⟩
      · rename_i noUp
        split at entered
        · cases entered
        · rename_i short
          split at entered
          · rename_i present
            cases entered
            exact .inr ⟨noUp, by simpa using short, rfl, by simp [present]⟩
          · cases entered
    · cases entered
    · cases entered
  · rintro ⟨isDirectory, ⟨rfl, rfl⟩ | ⟨noUp, short, rfl, present⟩⟩
    · rw [isDirectory]
      rfl
    · rw [isDirectory]
      dsimp only
      rw [if_neg noUp, if_neg (by simp [short])]
      split
      · rfl
      · contradiction

/-- A walk is the same in a tree in which its steps are. -/
theorem walk_of_enter
    (keeps : ∀ {here name next}, enter before here name = .ok next →
      enter after here name = .ok next)
    (walked : walk before start names = .ok there) : walk after start names = .ok there := by
  unfold walk at walked ⊢
  induction names generalizing start with
  | nil => exact walked
  | cons name names inductionHypothesis =>
      rw [List.foldlM_cons] at walked ⊢
      obtain ⟨next, entered, walked⟩ := bind_eq_ok_iff.1 walked
      rw [keeps entered]
      exact inductionHypothesis walked

theorem Tree.GainsDirectories.directory (gains : before.GainsDirectories after)
    (isDirectory : before.node? location = some .directory) :
    after.node? location = some .directory := by
  rcases gains location with same | ⟨absent, _⟩
  · rw [same, isDirectory]
  · rw [isDirectory] at absent
    cases absent

theorem walk_of_gains (gains : before.GainsDirectories after)
    (walked : walk before start names = .ok there) : walk after start names = .ok there := by
  refine walk_of_enter (fun entered => ?_) walked
  obtain ⟨isDirectory, step⟩ := enter_eq_ok_iff.1 entered
  refine enter_eq_ok_iff.2 ⟨gains.directory isDirectory, step.imp_right ?_⟩
  rintro ⟨noUp, short, isNext, present⟩
  refine ⟨noUp, short, isNext, ?_⟩
  rcases gains _ with same | ⟨absent, _⟩
  · rwa [same]
  · exact absurd absent present

/-- A file takes the place of no directory on the way. -/
theorem walk_put (free : tree.node? location ≠ some .directory)
    (walked : walk tree start names = .ok there) :
    walk (tree.put location (.file content)) start names = .ok there := by
  have inside : location ≠ [] := by
    intro isRoot
    rw [isRoot] at free
    exact free rfl
  refine walk_of_enter (fun entered => ?_) walked
  obtain ⟨isDirectory, step⟩ := enter_eq_ok_iff.1 entered
  refine enter_eq_ok_iff.2 ⟨?_, step.imp_right ?_⟩
  · rw [Tree.node?_put inside, if_neg, isDirectory]
    rintro rfl
    exact free isDirectory
  · rintro ⟨noUp, short, isNext, present⟩
    refine ⟨noUp, short, isNext, ?_⟩
    rw [Tree.node?_put inside]
    split
    · simp
    · exact present

end Walks

/-! ## Writing a file -/

section Files

variable {tree after : Tree} {directory : Location} {path : Path} {content : List UInt8}

/-- The place of a new node lies in a directory, under a name that can be walked to. -/
theorem exists_of_placeOfNew {taken : Cause} {location : Location}
    (found : placeOfNew tree directory path taken = .ok location) :
    ∃ above name, path.segments = path.segments.dropLast ++ [name] ∧
      walk tree (startOf directory path) path.segments.dropLast = .ok above ∧
      tree.node? above = some .directory ∧ name ≠ Path.up ∧ isTooLong name = false ∧
      location = above ++ [name] := by
  unfold placeOfNew at found
  split at found
  · cases found
  · rename_i name isLast
    obtain ⟨above, walked, found⟩ := bind_eq_ok_iff.1 found
    split at found
    · rename_i isDirectory
      split at found
      · cases found
      · rename_i noUp
        split at found
        · cases found
        · rename_i short
          cases found
          have segments := List.dropLast_append_getLast? name isLast
          exact ⟨above, name, segments.symm, walked, isDirectory, noUp, by simpa using short, rfl⟩
    · cases found
    · cases found

/-- **One file.**  A path leads to the file that was written under it, and nothing else has
changed. -/
theorem exists_of_writeFile (written : writeFile tree directory path content = .ok after) :
    ∃ location, locate after directory path = .ok location ∧
      tree.Replaces after location content := by
  unfold writeFile at written
  obtain ⟨_, _, written⟩ := bind_eq_ok_iff.1 written
  split at written
  · cases written
  · rename_i location found
    obtain ⟨above, name, segments, walked, isDirectory, noUp, short, isPlace⟩ :=
      exists_of_placeOfNew found
    have inside : location ≠ [] := by
      rw [isPlace]
      simp
    split at written
    · cases written
    · rename_i free
      cases written
      have different : above ≠ location := by
        rw [isPlace]
        simp
      refine ⟨location, ?_, .put inside content⟩
      unfold locate walk
      rw [segments, List.foldlM_append]
      have walkedAgain : walk (tree.put location (.file content)) (startOf directory path)
          path.segments.dropLast = .ok above := walk_put free walked
      unfold walk at walkedAgain
      rw [walkedAgain, ok_bind, List.foldlM_cons]
      unfold enter
      rw [Tree.node?_put inside, if_neg different, isDirectory]
      dsimp only
      rw [if_neg noUp, if_neg (by simp [short]), Tree.node?_put inside, if_pos isPlace.symm,
        isPlace]
      rfl

/-- **What is written is read back.** -/
theorem readFile_of_writeFile (written : writeFile tree directory path content = .ok after) :
    readFile after directory path = .ok content := by
  obtain ⟨location, leads, replaces⟩ := exists_of_writeFile written
  obtain ⟨_, checked, _⟩ := bind_eq_ok_iff.1 written
  unfold readFile
  rw [checked, ok_bind, leads]
  dsimp only
  rw [replaces.content]

end Files

end Findings.Files
