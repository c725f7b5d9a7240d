import Findings.Sarif.Draft
import Findings.Text.Blank
import Findings.Toml.Basic

/-!
Contract: the settings that a project can choose in its configuration table.

Owns:
- the type `Settings` with the defaults, and the options of a log that follow from it;
- the reading of settings from a table, and the errors of a table with their wording.

Does not own: where the table comes from (`Findings.Config.Load`).
-/

set_option autoImplicit false

namespace Findings.Config

/-- The choices of a project. -/
structure Settings where
  ignoreSuppressed : Bool := false
  toolName : Text := Text.ofString "ESLint"
  toolVersion : Option Text := none
  informationUri : Text := Text.ofString "https://eslint.org"
  /-- The folder that artifacts are named relative to. -/
  baseFolder : Option Text := none
  fingerprints : Bool := true
  indexRules : Bool := true
  /-- The file that the log is written to. -/
  output : Option Text := none
deriving DecidableEq

/-- The options of a log whose artifacts are named relative to a base folder. -/
def Settings.options (settings : Settings) (baseFolder : Text) : Sarif.Options where
  ignoreSuppressed := settings.ignoreSuppressed
  toolVersion := settings.toolVersion
  baseFolder := baseFolder
  toolName := settings.toolName
  informationUri := settings.informationUri
  fingerprints := settings.fingerprints
  indexRules := settings.indexRules

/-! ## Errors -/

/-- A setting has a value of the wrong kind.  The key is spelled with hyphens. -/
inductive SettingError where
  | notBoolean (key : Text)
  | notText (key : Text)
deriving DecidableEq

def SettingError.message : SettingError → Text
  | .notBoolean key =>
      Text.ofString "`tool.lintsarif." ++ key ++ Text.ofString "` must be a boolean."
  | .notText key =>
      Text.ofString "`tool.lintsarif." ++ key ++ Text.ofString "` must be a string."

/-! ## Reading a table -/

/-- A key with underscores in the place of hyphens. -/
def underscored (key : Text) : Text :=
  key.map fun (c : CodePoint) => if c = '-' then CodePoint.ofChar '_' else c

/-- The value of a setting.  The key with hyphens goes before the one with underscores. -/
def chosen? (table : Entries Toml.Value) (key : Text) : Option Toml.Value :=
  (Entries.find? key table).or (Entries.find? (underscored key) table)

/-- The value of a setting that is true or false. -/
def boolSetting (table : Entries Toml.Value) (key : Text) (default : Bool) :
    Except SettingError Bool :=
  match chosen? table key with
  | none => .ok default
  | some value =>
      match value.bool? with
      | some chosen => .ok chosen
      | none => .error (.notBoolean key)

/-- The value of a setting that is a text.  Blanks around it do not count, and neither does a text
of blanks alone. -/
def textSetting (table : Entries Toml.Value) (key : Text) : Except SettingError (Option Text) :=
  match chosen? table key with
  | none => .ok none
  | some value =>
      match value.text? with
      | some chosen => .ok (if chosen.trimBlank = [] then none else some chosen.trimBlank)
      | none => .error (.notText key)

/-- The settings of a table.  Of several errors the first in this order counts. -/
def Settings.ofTable (table : Entries Toml.Value) : Except SettingError Settings := do
  let default : Settings := {}
  let ignoreSuppressed ← boolSetting table "ignore-suppressed" default.ignoreSuppressed
  let toolName ← textSetting table "tool-name"
  let toolVersion ← textSetting table "tool-version"
  let informationUri ← textSetting table "information-uri"
  let baseFolder ← textSetting table "base-folder"
  let fingerprints ← boolSetting table "fingerprints" default.fingerprints
  let indexRules ← boolSetting table "index-rules" default.indexRules
  let output ← textSetting table "output"
  return {
    ignoreSuppressed
    toolName := toolName.getD default.toolName
    toolVersion
    informationUri := informationUri.getD default.informationUri
    baseFolder
    fingerprints
    indexRules
    output }

/-- The table of settings within a document; without one it is empty. -/
def tableOf (document : Entries Toml.Value) : Entries Toml.Value :=
  (((Entries.find? "tool" document).bind Toml.Value.table?).bind fun tool =>
    (Entries.find? "lintsarif" tool).bind Toml.Value.table?).getD []

/-- The settings of a document. -/
def Settings.ofDocument (document : Entries Toml.Value) : Except SettingError Settings :=
  Settings.ofTable (tableOf document)

end Findings.Config
