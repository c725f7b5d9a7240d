import Findings.Command.Run
import Findings.Proofs.Config.Choices
import Findings.Proofs.Files.Elsewhere
import Findings.Proofs.Files.FromRoot

/-!
Contract: two projects that are the same but for the settings of one of them.

Owns:
- `Settles`, which says that some choices are in the settings of one project and that the other one has
  no settings, and `settles_withSettings`: a configuration file with the choices makes such a project;
- `load_cases`, the settings that are read in the two projects.
-/

set_option autoImplicit false

namespace Findings.Command

open Config (Choices)
open Files (Tree Location)

/-- The place of the configuration file of a project in the working directory. -/
def settingsPlace (directory : Location) : Location := directory ++ [Config.fileName]

/-- The choices are in the settings of one project and not in those of the other.  Both projects lie in
the working directory, and there is no other difference. -/
structure Settles (choices : Choices) (bare settled : Surroundings) : Prop where
  directory : settled.directory = bare.directory
  input : settled.input = bare.input
  others : ∀ location ≠ settingsPlace bare.directory,
    bare.files.node? location = settled.files.node? location
  absent : bare.files.node? (settingsPlace bare.directory) = none
  present : ∃ bytes, settled.files.node? (settingsPlace bare.directory) = some (.file bytes) ∧
    choices.AreIn bytes
  has : bare.files.HasDirectory bare.directory
  names : ∀ name ∈ bare.directory, Files.IsPathText name

/-- A project with a configuration file of some bytes. -/
def Surroundings.withSettings (bare : Surroundings) (bytes : List UInt8) : Surroundings :=
  { bare with files := bare.files.put (settingsPlace bare.directory) (.file bytes) }

section Projects

variable {choices : Choices} {bare settled : Surroundings} {directory : Location} {tree : Tree}

theorem settles_withSettings {bytes : List UInt8}
    (absent : bare.files.node? (settingsPlace bare.directory) = none)
    (has : bare.files.HasDirectory bare.directory)
    (names : ∀ name ∈ bare.directory, Files.IsPathText name) (areIn : choices.AreIn bytes) :
    Settles choices bare (bare.withSettings bytes) := by
  have inside : settingsPlace bare.directory ≠ [] := by simp [settingsPlace]
  have isPut := fun location => Tree.node?_put inside location (.file bytes) bare.files
  exact {
    directory := rfl
    input := rfl
    others := fun location elsewhere => ((isPut location).trans (if_neg elsewhere)).symm
    absent, has, names
    present := ⟨bytes, (isPut _).trans (if_pos rfl), areIn⟩ }

/-- Names lead from a directory to what they are below it. -/
theorem along_of_names {names : List Text} (noUp : Path.up ∉ names) (start : Location) :
    Files.along start names = start ++ names := by
  unfold Files.along
  rw [Path.descend_names noUp, List.reverse_append, List.reverse_reverse, List.reverse_reverse]

theorem avoids_settingsPlace (noUp : Path.up ∉ directory) :
    Files.Avoids (settingsPlace directory) [] directory := by
  intro front inFront isPlace
  have noUpFront : Path.up ∉ front := fun member => noUp (inFront.subset member)
  rw [along_of_names noUpFront, List.nil_append] at isPlace
  have shorter := inFront.length_le
  rw [isPlace] at shorter
  unfold settingsPlace at shorter
  rw [List.length_append, List.length_singleton] at shorter
  omega

theorem Settles.sameBut (settles : Settles choices bare settled) :
    bare.files.SameBut (settingsPlace bare.directory) settled.files := by
  obtain ⟨bytes, isFile, _⟩ := settles.present
  refine ⟨settles.others, ?_, ?_⟩
  · rw [settles.absent]
    simp
  · rw [isFile]
    simp

theorem Settles.hasSettled (settles : Settles choices bare settled) :
    settled.files.HasDirectory bare.directory := by
  have elsewhere : bare.directory ≠ settingsPlace bare.directory := by
    unfold settingsPlace
    simp
  refine ⟨settles.has.noUp, ?_, ?_⟩
  · rw [← Files.walk_sameBut settles.sameBut List.not_mem_nil
      (avoids_settingsPlace settles.has.noUp)]
    exact settles.has.leads
  · rw [← settles.others _ elsewhere]
    exact settles.has.isDirectory

/-- The project in the working directory has its configuration file there. -/
theorem fileOf_directory (directory : Location) :
    Config.fileOf ⟨.slash, directory⟩ = ⟨.slash, settingsPlace directory⟩ := by
  have isPath : Path.ofText Config.fileName = ⟨.relative, [Config.fileName]⟩ := by decide
  unfold Config.fileOf settingsPlace
  rw [isPath]
  rfl

theorem locate_settingsPlace (has : tree.HasDirectory directory) :
    Files.locate tree directory ⟨.slash, settingsPlace directory⟩ =
      match tree.node? (settingsPlace directory) with
      | some _ => .ok (settingsPlace directory)
      | none => .error .missing := by
  have notUp : Config.fileName ≠ Path.up := by decide
  have short : Files.isTooLong Config.fileName = false := by decide
  have steps : Files.walk tree [] (settingsPlace directory) =
      Files.enter tree directory Config.fileName := by
    unfold settingsPlace
    rw [Files.walk_fromRoot has]
    show (Files.enter tree directory Config.fileName >>= pure) = _
    rw [bind_pure]
  unfold Files.locate
  show Files.walk tree [] (settingsPlace directory) = _
  rw [steps]
  unfold Files.enter
  rw [has.isDirectory]
  dsimp only
  rw [if_neg notUp, if_neg (by simp [short])]
  rfl

/-- **Settings of the two projects.**  One has the default settings and the other has the choices in
their places, or the path of the file is none that can be looked at. -/
theorem load_cases (settles : Settles choices bare settled) :
    (∃ error, Config.load bare.files bare.directory ⟨.slash, bare.directory⟩ = .error error ∧
        Config.load settled.files bare.directory ⟨.slash, bare.directory⟩ = .error error) ∨
      Config.load bare.files bare.directory ⟨.slash, bare.directory⟩ = .ok {} ∧
        Config.load settled.files bare.directory ⟨.slash, bare.directory⟩ = .ok choices.settings := by
  obtain ⟨bytes, isFile, areIn⟩ := settles.present
  unfold Config.load Files.readFile
  rw [fileOf_directory, locate_settingsPlace settles.has, locate_settingsPlace settles.hasSettled,
    settles.absent, isFile]
  cases checked : Files.checkPath ⟨.slash, settingsPlace bare.directory⟩ with
  | error failure =>
      rw [error_bind, error_bind]
      cases failure with
      | refused fault =>
          rw [Files.eq_nameTooLong_of_checkPath checked]
          exact .inl ⟨_, rfl, rfl⟩
      | nullCharacter => exact .inl ⟨_, rfl, rfl⟩
      | unencodable fault => exact .inl ⟨_, rfl, rfl⟩
  | ok =>
      refine .inr ⟨rfl, ?_⟩
      rw [ok_bind]
      dsimp only
      rw [isFile]
      exact Config.settings_of_choices areIn _

end Projects

end Findings.Command
