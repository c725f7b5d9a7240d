import Findings.Proofs.Files.Alike
import Findings.Proofs.Files.Writing
import Findings.Proofs.Path.Denotation

/-!
Contract: trees that differ in one place.

Owns:
- `Tree.SameBut`, two trees that hold the same everywhere but in one place, which is no directory in
  either;
- `Avoids`, the names that lead past a place;
- what making directories and writing a file do in such trees under a path that leads past the place:
  the same, and the trees afterwards differ there at most.

A walk goes by the names alone as long as it gets on, so that where it has been can be told without a
tree.
-/

set_option autoImplicit false

namespace Findings.Files

/-! ## Names and places -/

/-- Where names lead from a location if there are directories on the way. -/
def along (start : Location) (names : List Text) : Location :=
  (Path.descend start.reverse names).reverse

/-- Names that lead past a place: neither they nor those in front of some of them lead to it. -/
def Avoids (place start : Location) (names : List Text) : Prop :=
  ∀ front, front <+: names → along start front ≠ place

section Names

variable {place start : Location} {name : Text} {names : List Text}

theorem along_nil (start : Location) : along start [] = start := List.reverse_reverse start

theorem along_append (start : Location) (front back : List Text) :
    along start (front ++ back) = along (along start front) back := by
  unfold along
  rw [Path.descend_append, List.reverse_reverse]

theorem along_singleton (isName : name ≠ Path.up) (start : Location) :
    along start [name] = start ++ [name] := by
  unfold along
  rw [Path.descend_cons_of_ne isName]
  show (name :: start.reverse).reverse = start ++ [name]
  rw [List.reverse_cons, List.reverse_reverse]

theorem along_up (noUp : Path.up ∉ start) : along start [Path.up] = start.dropLast := by
  have reversed : Path.up ∉ start.reverse := by rwa [List.mem_reverse]
  show (Path.push .slash start.reverse Path.up).reverse = start.dropLast
  rw [Path.push_up_of_names reversed, List.tail_reverse, List.reverse_reverse]

theorem up_not_mem_along (noUp : Path.up ∉ start) (names : List Text) :
    Path.up ∉ along start names := by
  unfold along
  rw [List.mem_reverse]
  exact Path.up_not_mem_descend (by rwa [List.mem_reverse]) names

theorem Avoids.start_ne (avoids : Avoids place start names) : start ≠ place := by
  have atStart := avoids [] List.nil_prefix
  rwa [along_nil] at atStart

theorem Avoids.front (avoids : Avoids place start names) {first : List Text}
    (inFront : first <+: names) : Avoids place start first :=
  fun front isFront => avoids front (isFront.trans inFront)

theorem Avoids.behind {front back : List Text} (avoids : Avoids place start (front ++ back)) :
    Avoids place (along start front) back := by
  intro first isFirst
  rw [← along_append]
  exact avoids _ ((List.prefix_append_right_inj front).2 isFirst)

end Names

/-! ## Walking -/

/-- Two trees that hold the same everywhere but in one place, which is no directory in either. -/
structure Tree.SameBut (place : Location) (left right : Tree) : Prop where
  others : ∀ location ≠ place, left.node? location = right.node? location
  leftNoDirectory : left.node? place ≠ some .directory
  rightNoDirectory : right.node? place ≠ some .directory

section Walks

variable {tree left right : Tree} {place start next : Location} {name : Text} {names : List Text}

theorem eq_along_of_enter (noUp : Path.up ∉ start) (entered : enter tree start name = .ok next) :
    next = along start [name] := by
  obtain ⟨_, ⟨rfl, rfl⟩ | ⟨isName, _, rfl, _⟩⟩ := enter_eq_ok_iff.1 entered
  · rw [along_up noUp]
  · rw [along_singleton isName]

/-- A walk that gets on leads where the names do. -/
theorem eq_along_of_walk (noUp : Path.up ∉ start) (walked : walk tree start names = .ok next) :
    next = along start names := by
  unfold walk at walked
  induction names generalizing start with
  | nil =>
      rw [along_nil]
      exact (Except.ok.inj walked).symm
  | cons name names inductionHypothesis =>
      rw [List.foldlM_cons] at walked
      obtain ⟨middle, entered, rest⟩ := bind_eq_ok_iff.1 walked
      have isMiddle := eq_along_of_enter noUp entered
      have noUpBehind : Path.up ∉ middle := isMiddle ▸ up_not_mem_along noUp [name]
      rw [inductionHypothesis noUpBehind rest, isMiddle, ← along_append, List.singleton_append]

theorem enter_sameBut (same : left.SameBut place right)
    (avoids : Avoids place start [name]) : enter left start name = enter right start name := by
  unfold enter
  rw [same.others start avoids.start_ne]
  split
  · split
    · rfl
    · rename_i isName
      have behind := avoids [name] List.prefix_rfl
      rw [along_singleton isName] at behind
      rw [same.others _ behind]
  · rfl
  · rfl

/-- A walk past the place is the same in both trees. -/
theorem walk_sameBut (same : left.SameBut place right) (noUp : Path.up ∉ start)
    (avoids : Avoids place start names) : walk left start names = walk right start names := by
  unfold walk
  induction names generalizing start with
  | nil => rfl
  | cons name names inductionHypothesis =>
      rw [List.foldlM_cons, List.foldlM_cons,
        enter_sameBut same (avoids.front ⟨names, rfl⟩)]
      cases entered : enter right start name with
      | error cause => rfl
      | ok middle =>
          have isMiddle := eq_along_of_enter noUp entered
          rw [ok_bind, ok_bind]
          apply inductionHypothesis
          · rw [isMiddle]
            exact up_not_mem_along noUp [name]
          · rw [isMiddle]
            exact Avoids.behind avoids

end Walks

/-! ## Operations -/

section Operations

variable {left right : Tree} {place directory : Location} {path : Path}

/-- A directory that is put somewhere else in both trees makes no difference. -/
theorem Tree.SameBut.put (same : left.SameBut place right) {location : Location}
    (inside : location ≠ []) (elsewhere : location ≠ place) :
    (left.put location .directory).SameBut place (right.put location .directory) := by
  refine ⟨fun other different => ?_, ?_, ?_⟩
  · rw [Tree.node?_put inside, Tree.node?_put inside, same.others other different]
  · rw [Tree.node?_put inside, if_neg elsewhere.symm]
    exact same.leftNoDirectory
  · rw [Tree.node?_put inside, if_neg elsewhere.symm]
    exact same.rightNoDirectory

theorem up_not_mem_startOf (noUp : Path.up ∉ directory) (path : Path) :
    Path.up ∉ startOf directory path := by
  unfold startOf
  split
  · exact List.not_mem_nil
  · exact noUp

/-- The folder of a new node is found past the place. -/
theorem placeOfNew_sameBut (same : left.SameBut place right) (noUp : Path.up ∉ directory)
    (avoids : Avoids place (startOf directory path) path.segments.dropLast) (taken : Cause) :
    placeOfNew left directory path taken = placeOfNew right directory path taken := by
  have noUpStart := up_not_mem_startOf noUp path
  unfold placeOfNew
  rw [walk_sameBut same noUpStart avoids]
  cases path.segments.getLast? with
  | none => rfl
  | some name =>
      dsimp only
      cases walked : walk right (startOf directory path) path.segments.dropLast with
      | error cause => rfl
      | ok above =>
          have elsewhere : above ≠ place := by
            rw [eq_along_of_walk noUpStart walked]
            exact avoids _ List.prefix_rfl
          rw [ok_bind, ok_bind, same.others above elsewhere]

/-- A new node lies where its path leads. -/
theorem eq_along_of_placeOfNew {tree : Tree} {taken : Cause} {location : Location}
    (noUp : Path.up ∉ directory) (found : placeOfNew tree directory path taken = .ok location) :
    location ≠ [] ∧ location = along (startOf directory path) path.segments := by
  obtain ⟨above, name, segments, walked, _, isName, _, isPlace⟩ := exists_of_placeOfNew found
  have isAbove := eq_along_of_walk (up_not_mem_startOf noUp path) walked
  refine ⟨by simp [isPlace], ?_⟩
  rw [segments, along_append, ← isAbove, along_singleton isName, isPlace]

/-- A path and the same path, which leads past a place. -/
def SamePast (place directory : Location) (path other : Path) : Prop :=
  path = other ∧ Avoids place (startOf directory path) path.segments

theorem makeDirectory_sameBut (same : left.SameBut place right) (noUp : Path.up ∉ directory)
    (avoids : Avoids place (startOf directory path) path.segments) :
    AlikeResult (Tree.SameBut place) (SamePast place directory)
      (makeDirectory left directory path) (makeDirectory right directory path) := by
  have samePath : SamePast place directory path path := ⟨rfl, avoids⟩
  unfold makeDirectory
  rw [placeOfNew_sameBut same noUp (avoids.front (List.dropLast_prefix _))]
  cases checked : checkPath path with
  | error failure => exact .error (alikeFailure_of_checkPath samePath checked)
  | ok =>
      rw [ok_bind, ok_bind]
      cases found : placeOfNew right directory path .alreadyThere with
      | error cause => exact .error (.refused cause samePath)
      | ok location =>
          obtain ⟨inside, isPlace⟩ := eq_along_of_placeOfNew noUp found
          have elsewhere : location ≠ place := isPlace ▸ avoids _ List.prefix_rfl
          dsimp only
          rw [same.others location elsewhere]
          cases right.node? location with
          | some node => exact .error (.refused .alreadyThere samePath)
          | none => exact .ok (same.put inside elsewhere)

theorem isDirectory_sameBut (same : left.SameBut place right) (noUp : Path.up ∉ directory)
    (avoids : Avoids place (startOf directory path) path.segments) :
    isDirectory left directory path = isDirectory right directory path := by
  have noUpStart := up_not_mem_startOf noUp path
  unfold isDirectory locate
  rw [walk_sameBut same noUpStart avoids]
  cases checkPath path with
  | error failure => rfl
  | ok =>
      cases walked : walk right (startOf directory path) path.segments with
      | error cause => rfl
      | ok location =>
          have elsewhere : location ≠ place := by
            rw [eq_along_of_walk noUpStart walked]
            exact avoids _ List.prefix_rfl
          dsimp only
          rw [same.others location elsewhere]

/-- Making directories past a place does the same in both trees. -/
theorem makesAlike_sameBut (noUp : Path.up ∉ directory) :
    MakesAlike directory (Tree.SameBut place) (SamePast place directory) where
  make := by
    rintro left right path _ same ⟨rfl, avoids⟩
    exact makeDirectory_sameBut same noUp avoids
  isThere := by
    rintro left right path _ same ⟨rfl, avoids⟩
    exact isDirectory_sameBut same noUp avoids
  parent := by
    rintro path _ ⟨rfl, avoids⟩ _
    exact ⟨rfl, avoids.front (List.dropLast_prefix _)⟩

/-- The same file is put at the same location. -/
def PutsSame (content : List UInt8) (left right leftAfter rightAfter : Tree) : Prop :=
  ∃ location ≠ [], leftAfter = left.put location (.file content) ∧
    rightAfter = right.put location (.file content)

/-- **Writing past a place.**  Only the folder of the file has to lead past it; the file can lie
there. -/
theorem writeFile_sameBut (same : left.SameBut place right) (noUp : Path.up ∉ directory)
    (avoids : Avoids place (startOf directory path) path.segments.dropLast)
    (content : List UInt8) :
    AlikeResult (PutsSame content left right) Eq (writeFile left directory path content)
      (writeFile right directory path content) := by
  unfold writeFile
  rw [placeOfNew_sameBut same noUp avoids]
  cases checked : checkPath path with
  | error failure => exact .error (alikeFailure_of_checkPath rfl checked)
  | ok =>
      rw [ok_bind, ok_bind]
      cases found : placeOfNew right directory path .isDirectory with
      | error cause => exact .error (.refused cause rfl)
      | ok location =>
          obtain ⟨inside, _⟩ := eq_along_of_placeOfNew noUp found
          have alikeThere : left.node? location = some .directory ↔
              right.node? location = some .directory := by
            by_cases atPlace : location = place
            · rw [atPlace]
              exact iff_of_false same.leftNoDirectory same.rightNoDirectory
            · rw [same.others location atPlace]
          dsimp only
          split
          · rename_i isThere
            rw [alikeThere.1 isThere]
            exact .error (.refused .isDirectory rfl)
          · rename_i free
            split
            · rename_i isThere
              exact absurd (alikeThere.2 isThere) free
            · exact .ok ⟨location, inside, rfl, rfl⟩

end Operations

end Findings.Files
