import Findings.Config.Load
import Findings.Proofs.Entries
import Findings.Proofs.Text.Joined

/-!
Contract: choices that the settings of a project and a command line can both make.

Owns:
- `Choices`, a set of choices whose texts are fit for both;
- the table of settings that makes them, and the settings that are made by it (`settings_of_choices`).

The order of a table does not matter, nor what else lies in the document around it.
-/

set_option autoImplicit false

namespace Findings.Config

/-- A text that can be chosen: it is not empty, there are no blanks around it, and there is no null
character and no surrogate in it. -/
structure ChosenText where
  text : Text
  nonempty : text ≠ []
  trimmed : text.trimBlank = text
  noNull : ∀ c ∈ text, c.val ≠ 0
  free : text.IsSurrogateFree

/-- What is chosen, and otherwise left as it is by default. -/
structure Choices where
  ignoreSuppressed : Bool := false
  toolName : Option ChosenText := none
  toolVersion : Option ChosenText := none
  baseFolder : Option ChosenText := none
  noFingerprints : Bool := false
  output : Option ChosenText := none

/-! ## The table -/

/-- The entry of a key, if there is a value for it. -/
def entryOf (key : String) (value : Option Toml.Value) : Entries Toml.Value :=
  value.toList.map fun value => (Text.ofString key, value)

/-- The value of a text that may be chosen. -/
def textValue (chosen : Option ChosenText) : Option Toml.Value :=
  chosen.map fun chosen => .text chosen.text

/-- A truth value, if it is chosen. -/
def boolValue (chosen value : Bool) : Option Toml.Value :=
  if chosen then some (.bool value) else none

namespace Choices

variable (choices : Choices)

/-- The table of settings with just the choices. -/
def table : Entries Toml.Value :=
  entryOf "ignore-suppressed" (boolValue choices.ignoreSuppressed true)
    ++ entryOf "tool-name" (textValue choices.toolName)
    ++ entryOf "tool-version" (textValue choices.toolVersion)
    ++ entryOf "base-folder" (textValue choices.baseFolder)
    ++ entryOf "fingerprints" (boolValue choices.noFingerprints false)
    ++ entryOf "output" (textValue choices.output)

/-- The settings with the choices in the place of the defaults. -/
def settings : Settings where
  ignoreSuppressed := choices.ignoreSuppressed
  toolName := (choices.toolName.map ChosenText.text).getD (Text.ofString "ESLint")
  toolVersion := choices.toolVersion.map ChosenText.text
  baseFolder := choices.baseFolder.map ChosenText.text
  fingerprints := !choices.noFingerprints
  output := choices.output.map ChosenText.text

end Choices

/-! ## Reading the table -/

section Tables

variable {table : Entries Toml.Value} {choices : Choices}

theorem find?_entryOf (key other : String) (value : Option Toml.Value) :
    Entries.find? (Text.ofString key) (entryOf other value) =
      if other = key then value else none := by
  unfold entryOf
  cases value with
  | none => simp [Entries.find?]
  | some value => simp [Entries.find?]

/-- What is found under each key; no key is spelled with underscores. -/
theorem chosen?_table (choices : Choices) :
    chosen? choices.table "ignore-suppressed" = boolValue choices.ignoreSuppressed true ∧
      chosen? choices.table "tool-name" = textValue choices.toolName ∧
      chosen? choices.table "tool-version" = textValue choices.toolVersion ∧
      chosen? choices.table "information-uri" = none ∧
      chosen? choices.table "base-folder" = textValue choices.baseFolder ∧
      chosen? choices.table "fingerprints" = boolValue choices.noFingerprints false ∧
      chosen? choices.table "index-rules" = none ∧
      chosen? choices.table "output" = textValue choices.output := by
  have ignoreSuppressed : underscored "ignore-suppressed" = Text.ofString "ignore_suppressed" := by
    decide
  have toolName : underscored "tool-name" = Text.ofString "tool_name" := by decide
  have toolVersion : underscored "tool-version" = Text.ofString "tool_version" := by decide
  have informationUri : underscored "information-uri" = Text.ofString "information_uri" := by decide
  have baseFolder : underscored "base-folder" = Text.ofString "base_folder" := by decide
  have fingerprints : underscored "fingerprints" = Text.ofString "fingerprints" := by decide
  have indexRules : underscored "index-rules" = Text.ofString "index_rules" := by decide
  have output : underscored "output" = Text.ofString "output" := by decide
  unfold chosen?
  rw [ignoreSuppressed, toolName, toolVersion, informationUri, baseFolder, fingerprints, indexRules,
    output]
  simp [Choices.table, Entries.find?_append, find?_entryOf]

theorem boolSetting_of_boolValue {key : Text} {chosen value : Bool}
    (found : chosen? table key = boolValue chosen value) (default : Bool) :
    boolSetting table key default = .ok (if chosen then value else default) := by
  unfold boolSetting
  rw [found]
  cases chosen <;> rfl

theorem textSetting_of_textValue {key : Text} {chosen : Option ChosenText}
    (found : chosen? table key = textValue chosen) :
    textSetting table key = .ok (chosen.map ChosenText.text) := by
  unfold textSetting
  rw [found]
  cases chosen with
  | none => rfl
  | some chosen =>
      show Except.ok (if chosen.text.trimBlank = [] then none else some chosen.text.trimBlank) = _
      rw [chosen.trimmed, if_neg chosen.nonempty]
      rfl

theorem ofTable_table (choices : Choices) :
    Settings.ofTable choices.table = .ok choices.settings := by
  obtain ⟨ignoreSuppressed, toolName, toolVersion, informationUri, baseFolder, fingerprints,
    indexRules, output⟩ := chosen?_table choices
  have noUri : chosen? choices.table "information-uri" = textValue none := informationUri
  have noIndex : chosen? choices.table "index-rules" = boolValue false false := indexRules
  unfold Settings.ofTable
  dsimp only
  rw [boolSetting_of_boolValue ignoreSuppressed, textSetting_of_textValue toolName,
    textSetting_of_textValue toolVersion, textSetting_of_textValue noUri,
    textSetting_of_textValue baseFolder, boolSetting_of_boolValue fingerprints,
    boolSetting_of_boolValue noIndex, textSetting_of_textValue output]
  unfold Choices.settings
  cases choices.ignoreSuppressed <;> cases choices.noFingerprints <;> rfl

/-- Settings depend on a table by what is found in it. -/
theorem ofTable_congr {other : Entries Toml.Value}
    (same : ∀ key, Entries.find? key table = Entries.find? key other) :
    Settings.ofTable table = Settings.ofTable other := by
  have sameChoice : chosen? table = chosen? other := by
    funext key
    unfold chosen?
    rw [same, same]
  have sameBool : boolSetting table = boolSetting other := by
    funext key default
    unfold boolSetting
    rw [sameChoice]
  have sameText : textSetting table = textSetting other := by
    funext key
    unfold textSetting
    rw [sameChoice]
  unfold Settings.ofTable
  rw [sameBool, sameText]

end Tables

/-! ## Reading the file -/

/-- The bytes of a configuration file whose table makes just the choices. -/
def Choices.AreIn (choices : Choices) (bytes : List UInt8) : Prop :=
  ∃ text document, Text.decodeUtf8 bytes = .ok text ∧
    Toml.read (Text.universalNewlines text) = .ok document ∧
    ∀ key, Entries.find? key (tableOf document) = Entries.find? key choices.table

/-- **Choices in a file.**  The settings of a configuration file that makes some choices are the
defaults with these choices in their places. -/
theorem settings_of_choices {choices : Choices} {bytes : List UInt8} (areIn : choices.AreIn bytes)
    (path : Path) : Settings.ofBytes path bytes = .ok choices.settings := by
  obtain ⟨text, document, isText, isDocument, sameTable⟩ := areIn
  have isSettings : Settings.ofDocument document = .ok choices.settings := by
    unfold Settings.ofDocument
    rw [ofTable_congr sameTable, ofTable_table]
  unfold Settings.ofBytes
  simp only [isText, isDocument, isSettings]

end Findings.Config
