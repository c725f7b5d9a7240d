import Findings.Proofs.Command.Conversion
import Findings.Proofs.Command.Delivery
import Findings.Proofs.Command.Flags
import Findings.Proofs.Path.Resolution

/-!
Contract: the options of a log, with choices on the command line and with choices in the settings.

Owns:
- `Reading.LeavesOpen`, arguments that choose nothing which settings can choose;
- the options, the file of the log and the exit code that are read with choices in front of such
  arguments, and without them;
- the base folder that is chosen in either way, and when both have the same locations relative to them.

A base folder on the command line is made normal before backslashes are read as slashes.
-/

set_option autoImplicit false

namespace Findings.Command

open Config (Choices ChosenText Settings)
open Files (Location)

/-! ## One log under two bases -/

/-- The log of a report depends on the base folder by the locations relative to it only. -/
theorem ofReport_of_sameUris (settings : Settings) {base other : Text}
    (same : ∀ path, relativeUri path base = relativeUri path other) (report : Lint.Report) :
    Sarif.Log.ofReport (settings.options base) report =
      Sarif.Log.ofReport (settings.options other) report := by
  have sameFile : Sarif.Draft.addFile (settings.options base) report.rules =
      Sarif.Draft.addFile (settings.options other) report.rules := by
    funext draft file
    have sameUri : relativeUri file.path (settings.options base).baseFolder =
      relativeUri file.path (settings.options other).baseFolder := same file.path
    unfold Sarif.Draft.addFile
    rw [sameUri]
    rfl
  unfold Sarif.Log.ofReport Sarif.Log.ofResults
  rw [sameFile]
  rfl

/-! ## What is read -/

/-- Arguments choose nothing that can be chosen in settings, and the project lies in the working
directory. -/
structure Reading.LeavesOpen (reading : Reading) (directory : Location) : Prop where
  unused : ∀ name ∈ choosingOptions, reading.uses name = false
  project : reading.project directory = ⟨.slash, directory⟩

section Readings

variable {choices : Choices} {reading : Reading} {directory : Location}

theorem unused_choices {name : Text} (noChoice : name ∉ choosingOptions) :
    choices.reading.uses name = false := by
  rw [Bool.eq_false_iff]
  exact fun used => noChoice (mem_of_uses_choices choices used)

theorem disjoint_choices (leavesOpen : reading.LeavesOpen directory) (name : Text)
    (used : choices.reading.uses name = true) : reading.uses name = false :=
  leavesOpen.unused name (mem_of_uses_choices choices used)

/-- The base folder of the log, as the command line chooses it. -/
def chosenBase (choices : Choices) (directory : Location) : Path :=
  match choices.baseFolder with
  | some folder => resolve directory folder.text
  | none => ⟨.slash, directory⟩

/-- The base folder of the log, as settings choose it. -/
def settledBase (choices : Choices) (directory : Location) : Path :=
  match choices.baseFolder with
  | some folder => atRoot directory (Path.ofText folder.text)
  | none => ⟨.slash, directory⟩

theorem project_behind (leavesOpen : reading.LeavesOpen directory) :
    (choices.reading.behind reading).project directory = ⟨.slash, directory⟩ := by
  have sameValue : (choices.reading.behind reading).value? "project-root" =
      reading.value? "project-root" :=
    Reading.value?_behind_of_unused_front (unused_choices (by decide))
  have isProject := leavesOpen.project
  unfold Reading.project at isProject ⊢
  rw [sameValue]
  exact isProject

theorem uses_behind_choices (leavesOpen : reading.LeavesOpen directory) {name : Text}
    (isChoice : name ∈ choosingOptions) :
    (choices.reading.behind reading).uses name = choices.reading.uses name := by
  rw [Reading.uses_behind, leavesOpen.unused name isChoice, Bool.or_false]

theorem value?_behind_choices (leavesOpen : reading.LeavesOpen directory) {name : Text}
    (isChoice : name ∈ choosingOptions) :
    (choices.reading.behind reading).value? name = choices.reading.value? name :=
  Reading.value?_behind_of_unused (leavesOpen.unused name isChoice)

theorem value?_open (leavesOpen : reading.LeavesOpen directory) {name : Text}
    (isChoice : name ∈ choosingOptions) : reading.value? name = none :=
  Reading.value?_of_unused (leavesOpen.unused name isChoice)

theorem base_behind (leavesOpen : reading.LeavesOpen directory) :
    (choices.reading.behind reading).base directory {} = chosenBase choices directory := by
  obtain ⟨_, _, isFolder, _⟩ := value?_choices choices
  unfold Reading.base chosenBase
  rw [project_behind leavesOpen, value?_behind_choices leavesOpen (by decide), isFolder]
  cases choices.baseFolder <;> rfl

theorem base_open (leavesOpen : reading.LeavesOpen directory) :
    reading.base directory choices.settings = settledBase choices directory := by
  unfold Reading.base settledBase Choices.settings
  rw [leavesOpen.project, value?_open leavesOpen (by decide)]
  cases choices.baseFolder <;> rfl

/-- A chosen text is not taken for one that chooses nothing. -/
theorem exists_cons_of_chosen (chosen : ChosenText) : ∃ c rest, chosen.text = c :: rest :=
  List.exists_cons_of_ne_nil chosen.nonempty

/-- The options of the log with the choices on the command line. -/
theorem options_behind (leavesOpen : reading.LeavesOpen directory) :
    (choices.reading.behind reading).options directory {} =
      choices.settings.options (chosenBase choices directory).toText := by
  obtain ⟨isTool, isVersion, _, _⟩ := value?_choices choices
  have ignores : choices.reading.uses "ignore-suppressed" = choices.ignoreSuppressed := by
    rw [uses_choices]
    simp
  have includes : choices.reading.uses "include-suppressed" = false := by
    rw [uses_choices]
    simp
  have unprinted : choices.reading.uses "no-fingerprints" = choices.noFingerprints := by
    rw [uses_choices]
    simp
  unfold Reading.options Settings.options Choices.settings
  rw [base_behind leavesOpen, uses_behind_choices leavesOpen (by decide),
    uses_behind_choices leavesOpen (by decide), uses_behind_choices leavesOpen (by decide),
    value?_behind_choices leavesOpen (by decide), value?_behind_choices leavesOpen (by decide),
    ignores, includes, unprinted, isTool, isVersion]
  congr 1
  · cases choices.ignoreSuppressed <;> rfl
  · cases choices.toolVersion with
    | none => rfl
    | some chosen =>
        obtain ⟨c, rest, isText⟩ := exists_cons_of_chosen chosen
        simp only [Option.map_some, isText]
  · cases choices.toolName with
    | none => rfl
    | some chosen =>
        obtain ⟨c, rest, isText⟩ := exists_cons_of_chosen chosen
        simp only [Option.map_some, isText, Option.getD_some]
  · cases choices.noFingerprints <;> rfl

/-- The options of the log with the choices in the settings. -/
theorem options_open (leavesOpen : reading.LeavesOpen directory) :
    reading.options directory choices.settings =
      choices.settings.options (settledBase choices directory).toText := by
  unfold Reading.options Settings.options
  rw [base_open leavesOpen, leavesOpen.unused _ (by decide), leavesOpen.unused _ (by decide),
    leavesOpen.unused _ (by decide), value?_open leavesOpen (by decide),
    value?_open leavesOpen (by decide)]
  rfl

theorem destination?_behind (leavesOpen : reading.LeavesOpen directory) :
    (choices.reading.behind reading).destination? directory {} =
      choices.output.map fun file => Path.ofText file.text := by
  obtain ⟨_, _, _, isOutput⟩ := value?_choices choices
  unfold Reading.destination?
  rw [value?_behind_choices leavesOpen (by decide), isOutput]
  cases choices.output <;> rfl

theorem destination?_open (leavesOpen : reading.LeavesOpen directory) :
    reading.destination? directory choices.settings =
      choices.output.map fun file => atRoot directory (Path.ofText file.text) := by
  unfold Reading.destination? Choices.settings
  rw [leavesOpen.project, value?_open leavesOpen (by decide)]
  cases choices.output <;> rfl

theorem exitCode_behind (log : Sarif.Log) :
    (choices.reading.behind reading).exitCode log = reading.exitCode log := by
  have sameUse : (choices.reading.behind reading).uses "fail-on-error" =
      reading.uses "fail-on-error" := by
    rw [Reading.uses_behind, unused_choices (by decide), Bool.false_or]
  unfold Reading.exitCode
  rw [sameUse]

/-! ## Bases -/

/-- The two bases have the same locations relative to them, if making the base normal takes back no
split segment. -/
theorem sameUris_of_keepsSplit
    (keeps : ∀ folder ∈ choices.baseFolder,
      (atRoot directory (Path.ofText folder.text)).KeepsSplit) (path : Text) :
    relativeUri path (chosenBase choices directory).toText =
      relativeUri path (settledBase choices directory).toText := by
  unfold chosenBase settledBase
  cases isFolder : choices.baseFolder with
  | none => rfl
  | some folder =>
      have sameSegments := (segments_atRoot directory (Path.ofText folder.text)).symm
      have otherAbsolute := root_atRoot directory (Path.ofText folder.text)
      have keepsFolder := keeps folder isFolder
      have slashAbsolute : Path.Root.slash ≠ .relative := by decide
      apply relativeUri_normalize slashAbsolute otherAbsolute sameSegments
      unfold Path.KeepsSplit at keepsFolder ⊢
      rw [Path.normalize_segments_of_absolute otherAbsolute] at keepsFolder
      rw [Path.normalize_segments_of_absolute slashAbsolute, sameSegments]
      exact keepsFolder

end Readings

end Findings.Command
