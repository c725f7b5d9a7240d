import Findings.Proofs.Files.Alike
import Findings.Proofs.Files.Writing

/-!
Contract: a path from the working directory, and the same path written out from the root.

Owns:
- how many bytes a path takes, and that a part of a path that is short enough is short enough;
- `Tree.HasDirectory`, a tree in which names lead to a directory, as they do to the working directory
  of a program;
- `makesAlike_fromRoot`, `writeFile_fromRoot`: operations do the same under both paths, if the longer
  one is no longer than a path can be.

The walk from the root passes the working directory and goes on from there like the other walk.
-/

set_option autoImplicit false

namespace Findings.Files

/-! ## The length of a path -/

section Lengths

theorem byteCount_append (left right : Text) :
    byteCount (left ++ right) = byteCount left + byteCount right := by
  unfold byteCount
  induction left with
  | nil => simp
  | cons c left inductionHypothesis =>
      rw [List.cons_append, List.foldr_cons, List.foldr_cons, inductionHypothesis]
      omega

/-- How many bytes names take if a slash follows each of them. -/
def namesBytes : List Text → Nat
  | [] => 0
  | name :: names => byteCount name + 1 + namesBytes names

theorem namesBytes_le_of_sublist {part names : List Text} (inside : part.Sublist names) :
    namesBytes part ≤ namesBytes names := by
  induction inside with
  | slnil => exact Nat.le_refl 0
  | cons name _ inductionHypothesis => exact Nat.le_add_left_of_le inductionHypothesis
  | cons_cons name _ inductionHypothesis => exact Nat.add_le_add_left inductionHypothesis _

theorem byteCount_join (names : List Text) :
    byteCount (Text.join [Path.slash] names) = namesBytes names - 1 := by
  unfold Text.join
  induction names with
  | nil => rfl
  | cons first rest inductionHypothesis =>
      cases rest with
      | nil =>
          rw [List.intercalate_singleton]
          rfl
      | cons second others =>
          have slashByte : byteCount [Path.slash] = 1 := by decide
          rw [List.intercalate_cons_cons, byteCount_append, byteCount_append, slashByte,
            inductionHypothesis]
          simp only [namesBytes]
          omega

theorem byteCount_toText_slash (names : List Text) :
    byteCount (Path.toText ⟨.slash, names⟩) = 1 + (namesBytes names - 1) := by
  have slashByte : byteCount [Path.slash] = 1 := by decide
  show byteCount ([Path.slash] ++ Text.join [Path.slash] names) = _
  rw [byteCount_append, byteCount_join, slashByte]

/-- Some names of a path from the root take no more bytes than the path, whether from the root or
from somewhere else. -/
theorem byteCount_toText_le {root : Path.Root} (single : root ≠ .doubleSlash) {part names : List Text}
    (inside : part.Sublist names) :
    byteCount (Path.toText ⟨root, part⟩) ≤ byteCount (Path.toText ⟨.slash, names⟩) := by
  have shorter := namesBytes_le_of_sublist inside
  rw [byteCount_toText_slash]
  cases root with
  | doubleSlash => exact absurd rfl single
  | slash =>
      rw [byteCount_toText_slash]
      omega
  | relative =>
      cases part with
      | nil =>
          have pointByte : byteCount (Path.toText ⟨.relative, []⟩) = 1 := by decide
          rw [pointByte]
          omega
      | cons first rest =>
          show byteCount ([] ++ Text.join [Path.slash] (first :: rest)) ≤ _
          rw [List.nil_append, byteCount_join]
          omega

theorem checkPath_eq_ok_iff (path : Path) :
    checkPath path = .ok () ↔ IsPathText path.toText ∧ byteCount path.toText ≤ maxPathBytes := by
  unfold checkPath
  rw [← checkText_eq_ok_iff]
  cases checkText path.toText with
  | error failure => simp
  | ok =>
      rw [ok_bind]
      split
      · simp; omega
      · simp; omega

/-- Some names of a path that can be walked are such a path. -/
theorem checkPath_of_sublist {root : Path.Root} (single : root ≠ .doubleSlash) {part names : List Text}
    (inside : part.Sublist names) (fits : checkPath ⟨.slash, names⟩ = .ok ()) :
    checkPath ⟨root, part⟩ = .ok () := by
  rw [checkPath_eq_ok_iff, isPathText_toText_iff] at fits ⊢
  exact ⟨fun name member => fits.1 name (inside.subset member),
    (byteCount_toText_le single inside).trans fits.2⟩

end Lengths

/-! ## Walking on from a directory -/

/-- Names lead to a directory, as they do to the working directory of a program. -/
structure Tree.HasDirectory (tree : Tree) (directory : Location) : Prop where
  noUp : Path.up ∉ directory
  leads : walk tree [] directory = .ok directory
  isDirectory : tree.node? directory = some .directory

section Walks

variable {tree after : Tree} {directory : Location} {names : List Text}

theorem Tree.HasDirectory.of_gains (has : tree.HasDirectory directory)
    (gains : tree.GainsDirectories after) : after.HasDirectory directory :=
  ⟨has.noUp, walk_of_gains gains has.leads, gains.directory has.isDirectory⟩

theorem walk_fromRoot (has : tree.HasDirectory directory) (names : List Text) :
    walk tree [] (directory ++ names) = walk tree directory names := by
  have leads := has.leads
  unfold walk at leads ⊢
  rw [List.foldlM_append, leads, ok_bind]

/-- A new node lies at the same place. -/
theorem placeOfNew_fromRoot (has : tree.HasDirectory directory) (hasName : names ≠ [])
    (taken : Cause) :
    placeOfNew tree directory ⟨.slash, directory ++ names⟩ taken =
      placeOfNew tree directory ⟨.relative, names⟩ taken := by
  have sameLast : (directory ++ names).getLast? = names.getLast? := by
    rw [List.getLast?_append_of_ne_nil _ hasName]
  have sameFront : (directory ++ names).dropLast = directory ++ names.dropLast :=
    List.dropLast_append_of_ne_nil hasName
  have sameWalk : walk tree (startOf directory ⟨.slash, directory ++ names⟩)
        (directory ++ names.dropLast) =
      walk tree (startOf directory ⟨.relative, names⟩) names.dropLast :=
    walk_fromRoot has names.dropLast
  unfold placeOfNew
  dsimp only
  rw [sameLast, sameFront, sameWalk]

/-- The directory itself is no place for a new node. -/
theorem placeOfNew_directory (has : tree.HasDirectory directory) (taken : Cause) :
    placeOfNew tree directory ⟨.slash, directory⟩ taken = .error taken ∨
      placeOfNew tree directory ⟨.slash, directory⟩ taken = .ok directory := by
  obtain ⟨noUp, leads, _⟩ := has
  unfold placeOfNew
  dsimp only
  rcases List.eq_nil_or_concat directory with isRoot | ⟨front, name, isConcat⟩
  · rw [isRoot]
    exact .inl rfl
  · rw [List.concat_eq_append] at isConcat
    rw [isConcat] at noUp leads ⊢
    unfold walk at leads
    rw [List.foldlM_append] at leads
    obtain ⟨above, leadsAbove, last⟩ := bind_eq_ok_iff.1 leads
    rw [List.foldlM_cons] at last
    obtain ⟨next, entered, isNext⟩ := bind_eq_ok_iff.1 last
    cases isNext
    have notUp : name ≠ Path.up := fun isUp => noUp (isUp ▸ List.mem_concat_self)
    obtain ⟨isDirectory, ⟨isUp, _⟩ | ⟨_, short, samePlace, _⟩⟩ := enter_eq_ok_iff.1 entered
    · exact absurd isUp notUp
    · have isFront : front = above := List.append_inj_left' samePlace rfl
      have leadsFront : walk tree (startOf (front ++ [name]) ⟨.slash, front ++ [name]⟩)
          (front ++ [name]).dropLast = .ok front := by
        rw [List.dropLast_concat]
        exact leadsAbove.trans (congrArg Except.ok isFront.symm)
      rw [List.getLast?_concat, leadsFront]
      dsimp only
      rw [ok_bind, isFront, isDirectory]
      dsimp only
      rw [if_neg notUp, if_neg (by simp [short])]
      exact .inr rfl

end Walks

/-! ## Operations -/

/-- A path from the working directory, and the path written out from the root, which can be
walked. -/
structure FromRoot (directory : Location) (path other : Path) : Prop where
  relative : path.root = .relative
  isOther : other = ⟨.slash, directory ++ path.segments⟩
  fits : checkPath other = .ok ()

section Operations

variable {tree : Tree} {directory : Location} {path other : Path}

theorem FromRoot.checkPath (fromRoot : FromRoot directory path other) :
    checkPath path = .ok () := by
  obtain ⟨relative, rfl, fits⟩ := fromRoot
  obtain ⟨root, names⟩ := path
  cases relative
  exact checkPath_of_sublist (by decide) (List.sublist_append_right _ _) fits

theorem FromRoot.parent (fromRoot : FromRoot directory path other) (hasName : path.segments ≠ []) :
    FromRoot directory path.parent other.parent := by
  obtain ⟨relative, rfl, fits⟩ := fromRoot
  refine ⟨relative, ?_, ?_⟩
  · show Path.mk _ (directory ++ path.segments).dropLast = _
    rw [List.dropLast_append_of_ne_nil hasName]
    rfl
  · have single : Path.Root.slash ≠ .doubleSlash := by decide
    exact checkPath_of_sublist single (List.dropLast_sublist _) fits

theorem makeDirectory_fromRoot (has : tree.HasDirectory directory)
    (fromRoot : FromRoot directory path other) :
    AlikeResult (fun left right => left = right ∧ left.HasDirectory directory)
      (FromRoot directory) (makeDirectory tree directory path)
      (makeDirectory tree directory other) := by
  have checked := fromRoot.checkPath
  have otherChecked := fromRoot.fits
  have ⟨relative, isOther, _⟩ := fromRoot
  unfold makeDirectory
  rw [checked, otherChecked, ok_bind, ok_bind]
  by_cases hasName : path.segments = []
  · have noPlace : placeOfNew tree directory path .alreadyThere = .error .alreadyThere := by
      unfold placeOfNew
      rw [hasName]
      rfl
    rw [noPlace]
    dsimp only
    have isDirectory : other = ⟨.slash, directory⟩ := by rw [isOther, hasName, List.append_nil]
    rcases placeOfNew_directory has .alreadyThere with refused | found
    · rw [isDirectory, refused, ← isDirectory]
      exact .error (.refused _ fromRoot)
    · rw [isDirectory, found]
      dsimp only
      rw [has.isDirectory, ← isDirectory]
      exact .error (.refused _ fromRoot)
  · have samePlace := placeOfNew_fromRoot has hasName .alreadyThere
    have isPath : path = ⟨.relative, path.segments⟩ := by rw [← relative]
    rw [← isPath, ← isOther] at samePlace
    rw [samePlace]
    cases placeOfNew tree directory path .alreadyThere with
    | error cause => exact .error (.refused cause fromRoot)
    | ok location =>
        dsimp only
        cases absent : tree.node? location with
        | some node => exact .error (.refused _ fromRoot)
        | none => exact .ok ⟨rfl, has.of_gains (.put absent)⟩

theorem isDirectory_fromRoot (has : tree.HasDirectory directory)
    (fromRoot : FromRoot directory path other) :
    isDirectory tree directory path = isDirectory tree directory other := by
  have sameLocation : locate tree directory other = locate tree directory path := by
    obtain ⟨relative, rfl, _⟩ := fromRoot
    obtain ⟨root, names⟩ := path
    cases relative
    exact walk_fromRoot has names
  unfold isDirectory
  rw [fromRoot.checkPath, fromRoot.fits, sameLocation]

/-- Making directories does the same under both paths. -/
theorem makesAlike_fromRoot :
    MakesAlike directory (fun left right => left = right ∧ left.HasDirectory directory)
      (FromRoot directory) where
  make := by
    rintro left _ path other ⟨rfl, has⟩ fromRoot
    exact makeDirectory_fromRoot has fromRoot
  isThere := by
    rintro left _ path other ⟨rfl, has⟩ fromRoot
    exact isDirectory_fromRoot has fromRoot
  parent := FromRoot.parent

/-- Writing a file does the same under both paths. -/
theorem writeFile_fromRoot (has : tree.HasDirectory directory)
    (fromRoot : FromRoot directory path other) (hasName : path.segments ≠ [])
    (content : List UInt8) :
    AlikeResult Eq (FromRoot directory) (writeFile tree directory path content)
      (writeFile tree directory other content) := by
  have checked := fromRoot.checkPath
  have otherChecked := fromRoot.fits
  have ⟨relative, isOther, _⟩ := fromRoot
  have samePlace := placeOfNew_fromRoot has hasName .isDirectory
  have isPath : path = ⟨.relative, path.segments⟩ := by rw [← relative]
  rw [← isPath, ← isOther] at samePlace
  unfold writeFile
  rw [checked, otherChecked, ok_bind, ok_bind, samePlace]
  cases placeOfNew tree directory path .isDirectory with
  | error cause => exact .error (.refused cause fromRoot)
  | ok location =>
      dsimp only
      split
      · exact .error (.refused _ fromRoot)
      · exact .ok rfl

end Operations

end Findings.Files
