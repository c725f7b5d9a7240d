import Findings.Config.Load
import Findings.Proofs.Entries
import Findings.Proofs.Except
import Findings.Proofs.Text.Blank
import Findings.Proofs.Text.Utf8
import Findings.Proofs.Toml.KeysOnce

/-!
Contract: what a table of settings is checked for, and what the settings are that pass.

Owns:
- `Setting`, the settings one by one: how they are spelled, which values they take and what they are
  by default;
- `selected?`, the value that a table gives to a setting, and `settled?`, what the setting is then;
- a table is refused for its first setting with a value of the wrong kind, and otherwise every setting
  is what it is given (`ofTable_eq_error_iff`, `ofTable_eq_ok_iff`);
- entries that have no influence (`ofTable_congr_influential`).

Does not own: the document around the table.
-/

set_option autoImplicit false

namespace Findings.Config

/-! ## Settings one by one -/

/-- The settings of a project. -/
inductive Setting where
  | ignoreSuppressed
  | toolName
  | toolVersion
  | informationUri
  | baseFolder
  | fingerprints
  | indexRules
  | output
deriving DecidableEq

namespace Setting

/-- All settings, in the order in which they are looked at. -/
def all : List Setting :=
  [.ignoreSuppressed, .toolName, .toolVersion, .informationUri, .baseFolder, .fingerprints,
    .indexRules, .output]

theorem mem_all (setting : Setting) : setting ∈ all := by cases setting <;> decide

/-- The key of a setting, with hyphens. -/
def key : Setting → Text
  | ignoreSuppressed => "ignore-suppressed"
  | toolName => "tool-name"
  | toolVersion => "tool-version"
  | informationUri => "information-uri"
  | baseFolder => "base-folder"
  | fingerprints => "fingerprints"
  | indexRules => "index-rules"
  | output => "output"

/-- The other spelling of a key, with underscores. -/
def otherKey : Setting → Text
  | ignoreSuppressed => "ignore_suppressed"
  | toolName => "tool_name"
  | toolVersion => "tool_version"
  | informationUri => "information_uri"
  | baseFolder => "base_folder"
  | fingerprints => "fingerprints"
  | indexRules => "index_rules"
  | output => "output"

theorem underscored_key (setting : Setting) : underscored setting.key = setting.otherKey := by
  cases setting <;> decide

/-- A setting is true or false, or else it is a text. -/
def isFlag : Setting → Bool
  | ignoreSuppressed | fingerprints | indexRules => true
  | _ => false

/-- A value is of the kind of a setting. -/
def Takes (setting : Setting) (value : Toml.Value) : Prop :=
  if setting.isFlag then ∃ flag, value = .bool flag else ∃ text, value = .text text

/-- What is found fault with in a setting. -/
def error (setting : Setting) : SettingError :=
  if setting.isFlag then .notBoolean setting.key else .notText setting.key

/-- The message on a setting with a value of the wrong kind. -/
def complaint (setting : Setting) : Text :=
  Text.ofString "`tool.lintsarif." ++ setting.key ++ Text.ofString "` must be a "
    ++ Text.ofString (if setting.isFlag then "boolean." else "string.")

theorem message_error (setting : Setting) : setting.error.message = setting.complaint := by
  cases setting <;> decide

end Setting

/-- What a setting is.  A text can be missing. -/
def Settings.value? (settings : Settings) : Setting → Option Toml.Value
  | .ignoreSuppressed => some (.bool settings.ignoreSuppressed)
  | .toolName => some (.text settings.toolName)
  | .toolVersion => settings.toolVersion.map .text
  | .informationUri => some (.text settings.informationUri)
  | .baseFolder => settings.baseFolder.map .text
  | .fingerprints => some (.bool settings.fingerprints)
  | .indexRules => some (.bool settings.indexRules)
  | .output => settings.output.map .text

theorem Settings.eq_of_value? {settings others : Settings}
    (same : ∀ setting, settings.value? setting = others.value? setting) : settings = others := by
  have mapsApart : ∀ {left right : Option Text},
      left.map Toml.Value.text = right.map Toml.Value.text → left = right :=
    fun equal => Option.map_injective (fun _ _ => Toml.Value.text.inj) equal
  have ignoreSuppressed := Toml.Value.bool.inj (Option.some.inj (same .ignoreSuppressed))
  have toolName := Toml.Value.text.inj (Option.some.inj (same .toolName))
  have toolVersion := mapsApart (same .toolVersion)
  have informationUri := Toml.Value.text.inj (Option.some.inj (same .informationUri))
  have baseFolder := mapsApart (same .baseFolder)
  have fingerprints := Toml.Value.bool.inj (Option.some.inj (same .fingerprints))
  have indexRules := Toml.Value.bool.inj (Option.some.inj (same .indexRules))
  have output := mapsApart (same .output)
  cases settings
  cases others
  simp only [Settings.mk.injEq]
  exact ⟨ignoreSuppressed, toolName, toolVersion, informationUri, baseFolder, fingerprints,
    indexRules, output⟩

/-! ## Values in a table -/

section Tables

variable (table : Entries Toml.Value) (setting : Setting)

/-- The value that a table gives to a setting: the one under its key with hyphens, and if there is
none the one under its key with underscores. -/
def selected? : Option Toml.Value :=
  (Entries.find? setting.key table).or (Entries.find? setting.otherKey table)

/-- The value that a table gives to a setting is of the wrong kind. -/
def IsRefused : Prop := ∃ value, selected? table setting = some value ∧ ¬ setting.Takes value

/-- What a setting is that is given some value, or none.  Blanks around a text do not count, and a text
of nothing else counts as none. -/
def settled? : Option Toml.Value → Option Toml.Value
  | some (.bool flag) => some (.bool flag)
  | some (.text text) =>
      if text.trimBlank = [] then ({} : Settings).value? setting else some (.text text.trimBlank)
  | _ => ({} : Settings).value? setting

/-- A setting is the first one that a table is refused for. -/
def IsFirstRefused : Prop :=
  ∃ earlier later, Setting.all = earlier ++ setting :: later ∧
    (∀ other ∈ earlier, ¬ IsRefused table other) ∧ IsRefused table setting

variable {table setting}

theorem chosen?_key : chosen? table setting.key = selected? table setting := by
  unfold chosen? selected?
  rw [setting.underscored_key]

/-! ## Checks -/

/-- The check of one setting. -/
def check (table : Entries Toml.Value) (setting : Setting) : Except SettingError Unit :=
  match selected? table setting with
  | none => .ok ()
  | some value =>
      if setting.isFlag then (if value.bool?.isSome then .ok () else .error setting.error)
      else if value.text?.isSome then .ok () else .error setting.error

theorem check_eq_error_iff {error : SettingError} :
    check table setting = .error error ↔ IsRefused table setting ∧ error = setting.error := by
  unfold check IsRefused Setting.Takes
  cases selected? table setting with
  | none => simp
  | some value => cases value <;> cases setting.isFlag <;>
      simp [Toml.Value.bool?, Toml.Value.text?, eq_comm]

theorem check_eq_ok_iff : check table setting = .ok () ↔ ¬ IsRefused table setting := by
  cases checked : check table setting with
  | error error => simpa using (check_eq_error_iff.1 checked).1
  | ok =>
      refine iff_of_true rfl fun refused => ?_
      rw [check_eq_error_iff.2 ⟨refused, rfl⟩] at checked
      cases checked

/-- A flag as it is set by a table that passes the check. -/
def flagOf (table : Entries Toml.Value) (setting : Setting) (default : Bool) : Bool :=
  ((selected? table setting).bind Toml.Value.bool?).getD default

/-- A text as it is set by a table that passes the check. -/
def textOf? (table : Entries Toml.Value) (setting : Setting) : Option Text :=
  ((selected? table setting).bind Toml.Value.text?).bind fun text =>
    if text.trimBlank = [] then none else some text.trimBlank

theorem boolSetting_eq (table : Entries Toml.Value) (setting : Setting)
    (isFlag : setting.isFlag = true) (default : Bool) :
    boolSetting table setting.key default =
      (check table setting).map fun _ => flagOf table setting default := by
  unfold boolSetting check flagOf Setting.error
  rw [chosen?_key, isFlag]
  cases selected? table setting with
  | none => rfl
  | some value => cases value <;> rfl

theorem textSetting_eq (table : Entries Toml.Value) (setting : Setting)
    (isText : setting.isFlag = false) :
    textSetting table setting.key = (check table setting).map fun _ => textOf? table setting := by
  unfold textSetting check textOf? Setting.error
  rw [chosen?_key, isText]
  cases selected? table setting with
  | none => rfl
  | some value => cases value <;> rfl

/-- The settings of a table that passes all checks. -/
def settingsOf (table : Entries Toml.Value) : Settings where
  ignoreSuppressed := flagOf table .ignoreSuppressed false
  toolName := (textOf? table .toolName).getD (Text.ofString "ESLint")
  toolVersion := textOf? table .toolVersion
  informationUri := (textOf? table .informationUri).getD (Text.ofString "https://eslint.org")
  baseFolder := textOf? table .baseFolder
  fingerprints := flagOf table .fingerprints true
  indexRules := flagOf table .indexRules true
  output := textOf? table .output

/-- The settings are checked in order, and only then put together. -/
theorem ofTable_eq (table : Entries Toml.Value) :
    Settings.ofTable table = (Setting.all.forM (check table)).map fun _ => settingsOf table := by
  have ignoreSuppressed := boolSetting_eq table .ignoreSuppressed rfl false
  have toolName := textSetting_eq table .toolName rfl
  have toolVersion := textSetting_eq table .toolVersion rfl
  have informationUri := textSetting_eq table .informationUri rfl
  have baseFolder := textSetting_eq table .baseFolder rfl
  have fingerprints := boolSetting_eq table .fingerprints rfl true
  have indexRules := boolSetting_eq table .indexRules rfl true
  have output := textSetting_eq table .output rfl
  unfold Setting.key at ignoreSuppressed toolName toolVersion informationUri
  unfold Setting.key at baseFolder fingerprints indexRules output
  unfold Settings.ofTable
  dsimp only
  rw [ignoreSuppressed, toolName, toolVersion, informationUri, baseFolder, fingerprints, indexRules,
    output]
  unfold Setting.all
  simp only [List.forM_eq_forM, List.forM_cons, List.forM_nil, bind_of_map, map_of_bind]
  rfl

theorem ofTable_eq_error_iff {error : SettingError} :
    Settings.ofTable table = .error error ↔
      ∃ setting, IsFirstRefused table setting ∧ error = setting.error := by
  have failed : Settings.ofTable table = .error error ↔
      Setting.all.forM (check table) = .error error := by
    rw [ofTable_eq]
    cases Setting.all.forM (check table) <;> simp
  rw [failed, forM_eq_error_iff]
  simp only [check_eq_ok_iff, check_eq_error_iff]
  constructor
  · rintro ⟨earlier, setting, later, isAll, passed, refused, isError⟩
    exact ⟨setting, ⟨earlier, later, isAll, passed, refused⟩, isError⟩
  · rintro ⟨setting, ⟨earlier, later, isAll, passed, refused⟩, isError⟩
    exact ⟨earlier, setting, later, isAll, passed, refused, isError⟩

/-- The settings of a table are what its values settle. -/
theorem value?_settingsOf {setting : Setting} (passes : ¬ IsRefused table setting) :
    (settingsOf table).value? setting = settled? setting (selected? table setting) := by
  have takes : ∀ value, selected? table setting = some value → setting.Takes value := by
    intro value isSelected
    by_contra refused
    exact passes ⟨value, isSelected, refused⟩
  unfold Setting.Takes at takes
  cases isSelected : selected? table setting with
  | none => cases setting <;>
      simp [settingsOf, Settings.value?, settled?, flagOf, textOf?, isSelected]
  | some value =>
      have ofKind := takes value isSelected
      cases setting
      all_goals
        obtain ⟨content, rfl⟩ := ofKind
        simp only [settingsOf, Settings.value?, settled?, flagOf, textOf?, isSelected,
          Option.bind_some, Toml.Value.bool?, Toml.Value.text?, Option.getD_some]
        try split <;> rfl

theorem ofTable_eq_ok_iff {settings : Settings} :
    Settings.ofTable table = .ok settings ↔
      (∀ setting, ¬ IsRefused table setting) ∧
        ∀ setting, settings.value? setting = settled? setting (selected? table setting) := by
  have passed : Settings.ofTable table = .ok settings ↔
      (∀ setting, ¬ IsRefused table setting) ∧ settingsOf table = settings := by
    have allPass : (∀ setting, ¬ IsRefused table setting) ↔
        Setting.all.forM (check table) = .ok () := by
      rw [forM_eq_ok_iff]
      simp only [check_eq_ok_iff, Setting.mem_all, true_implies]
    rw [allPass, ofTable_eq]
    cases Setting.all.forM (check table) <;> simp
  rw [passed]
  apply and_congr_right
  intro passes
  constructor
  · rintro rfl setting
    exact value?_settingsOf (passes setting)
  · intro settles
    apply Settings.eq_of_value?
    intro setting
    rw [value?_settingsOf (passes setting), settles]

theorem exists_ofTable_eq_ok (passes : ∀ setting, ¬ IsRefused table setting) :
    ∃ settings, Settings.ofTable table = .ok settings :=
  ⟨settingsOf table, ofTable_eq_ok_iff.2
    ⟨passes, fun setting => value?_settingsOf (passes setting)⟩⟩

/-- Every text in the settings of a table is trimmed, the default ones included. -/
theorem isTrimmed_of_value? {settings : Settings} (isOk : Settings.ofTable table = .ok settings)
    {text : Text} (isText : settings.value? setting = some (.text text)) : text.IsTrimmed := by
  have defaultTrimmed : ({} : Settings).value? setting = some (.text text) → text.IsTrimmed := by
    intro isDefault
    cases setting
    case toolName | informationUri =>
      cases isDefault
      decide
    all_goals cases isDefault
  rw [(ofTable_eq_ok_iff.1 isOk).2 setting] at isText
  unfold settled? at isText
  split at isText
  case h_1 => cases isText
  case h_2 given _ =>
    split at isText
    case isTrue => exact defaultTrimmed isText
    case isFalse visible =>
      cases isText
      exact Text.isTrimmed_trimBlank visible
  case h_3 => exact defaultTrimmed isText

/-! ## Entries without influence -/

/-- An entry has influence if a setting is spelled with its key, unless that is the spelling with
underscores and the one with hyphens is there as well. -/
def HasInfluence (table : Entries Toml.Value) (key : Text) : Prop :=
  ∃ setting : Setting,
    key = setting.key ∨ (key = setting.otherKey ∧ setting.key ∉ Entries.keys table)

instance (table : Entries Toml.Value) (key : Text) : Decidable (HasInfluence table key) :=
  decidable_of_iff
    (∃ setting ∈ Setting.all,
      key = setting.key ∨ (key = setting.otherKey ∧ setting.key ∉ Entries.keys table))
    ⟨fun ⟨setting, _, influences⟩ => ⟨setting, influences⟩,
      fun ⟨setting, influences⟩ => ⟨setting, setting.mem_all, influences⟩⟩

/-- The entries that have influence. -/
def influential (table : Entries Toml.Value) : Entries Toml.Value :=
  table.filter fun entry => HasInfluence table entry.1

theorem find?_influential (table : Entries Toml.Value) (key : Text) :
    Entries.find? key (influential table) =
      if HasInfluence table key then Entries.find? key table else none := by
  unfold influential
  rw [Entries.find?_filter fun name => decide (HasInfluence table name)]
  simp only [decide_eq_true_eq]

theorem selected?_influential (table : Entries Toml.Value) (setting : Setting) :
    selected? (influential table) setting = selected? table setting := by
  have influences : HasInfluence table setting.key := ⟨setting, .inl rfl⟩
  unfold selected?
  rw [find?_influential, find?_influential, if_pos influences]
  cases found : Entries.find? setting.key table with
  | some value => rfl
  | none =>
      have absent : setting.key ∉ Entries.keys table := Entries.find?_eq_none_iff.1 found
      rw [if_pos ⟨setting, .inr ⟨rfl, absent⟩⟩]

/-- Settings depend on a table by the values that it gives to them. -/
theorem ofTable_congr_selected {other : Entries Toml.Value}
    (same : ∀ setting, selected? table setting = selected? other setting) :
    Settings.ofTable table = Settings.ofTable other := by
  have sameChecks : check table = check other := by
    funext setting
    unfold check
    rw [same]
  have sameSettings : settingsOf table = settingsOf other := by
    unfold settingsOf flagOf textOf?
    simp only [same]
  rw [ofTable_eq, ofTable_eq, sameChecks, sameSettings]

/-- **Influence.**  Settings depend neither on the order of keys nor on entries without influence. -/
theorem ofTable_congr_influential {other : Entries Toml.Value} (once : table.keys.Nodup)
    (perm : (influential table).Perm (influential other)) :
    Settings.ofTable table = Settings.ofTable other := by
  have onceInfluential : (influential table).keys.Nodup :=
    once.sublist (List.filter_sublist.map Prod.fst)
  apply ofTable_congr_selected
  intro setting
  rw [← selected?_influential table, ← selected?_influential other]
  unfold selected?
  rw [Entries.find?_of_perm onceInfluential perm, Entries.find?_of_perm onceInfluential perm]

end Tables

/-! ## Projects -/

section Projects

variable {tree : Files.Tree} {directory : Files.Location} {project : Path}
  {table : Entries Toml.Value}

/-- The configuration file of a project is a document in which there is a table of settings. -/
def HoldsTable (tree : Files.Tree) (directory : Files.Location) (project : Path)
    (table : Entries Toml.Value) : Prop :=
  ∃ bytes text document tool, Files.readFile tree directory (fileOf project) = .ok bytes ∧
    Text.decodeUtf8 bytes = .ok text ∧ Toml.read (Text.universalNewlines text) = .ok document ∧
    Entries.find? "tool" document = some (.table tool) ∧
    Entries.find? "lintsarif" tool = some (.table table)

/-- What is found fault with in a table is all that can be wrong with a project that holds it. -/
theorem load_of_holdsTable (holds : HoldsTable tree directory project table) :
    load tree directory project =
      (Settings.ofTable table).mapError fun error => .config (.setting error) := by
  obtain ⟨bytes, text, document, tool, isFile, isText, isDocument, isTool, isTable⟩ := holds
  have isTableOf : tableOf document = table := by
    unfold tableOf
    rw [isTool, Option.bind_some, Toml.Value.table?, Option.bind_some, isTable]
    rfl
  unfold load Settings.ofBytes
  simp only [isFile, isText, isDocument, Settings.ofDocument, isTableOf]
  cases Settings.ofTable table <;> rfl

theorem HoldsTable.nodup_keys (holds : HoldsTable tree directory project table) :
    table.keys.Nodup := by
  obtain ⟨bytes, text, document, tool, _, _, isDocument, isTool, isTable⟩ := holds
  exact (((Toml.hasKeysOnce_read isDocument).of_find? isTool).of_find? isTable).nodup_keys

/-- **Validation.**  A project with a table of settings is refused just for the first of its settings,
in their order, that is given a value of the wrong kind; the message names that setting.  Otherwise
every setting is what it is given, without the blanks around a text, or its default; so every text is
trimmed.  Order, entries without influence and everything else in the file do not matter. -/
theorem load_validates_table (holds : HoldsTable tree directory project table) :
    (∀ error, load tree directory project = .error error ↔
      ∃ setting, IsFirstRefused table setting ∧ error = .config (.setting setting.error) ∧
        error.message = setting.complaint) ∧
    (∀ settings, load tree directory project = .ok settings ↔
      (∀ setting, ¬ IsRefused table setting) ∧
        ∀ setting, settings.value? setting = settled? setting (selected? table setting)) ∧
    (∀ settings, load tree directory project = .ok settings →
      ∀ setting text, settings.value? setting = some (.text text) → text.IsTrimmed) ∧
    ∀ otherTree otherDirectory otherProject otherTable,
      HoldsTable otherTree otherDirectory otherProject otherTable →
      (influential table).Perm (influential otherTable) →
      load tree directory project = load otherTree otherDirectory otherProject := by
  have loaded := load_of_holdsTable holds
  refine ⟨fun error => ?_, fun settings => ?_, fun settings isOk => ?_, ?_⟩
  · rw [loaded, mapError_eq_error_iff]
    simp only [ofTable_eq_error_iff]
    constructor
    · rintro ⟨_, ⟨setting, isFirst, rfl⟩, rfl⟩
      exact ⟨setting, isFirst, rfl, setting.message_error⟩
    · rintro ⟨setting, isFirst, rfl, _⟩
      exact ⟨_, ⟨setting, isFirst, rfl⟩, rfl⟩
  · rw [loaded, mapError_eq_ok_iff, ofTable_eq_ok_iff]
  · rw [loaded, mapError_eq_ok_iff] at isOk
    exact fun setting text isText => isTrimmed_of_value? isOk isText
  · intro otherTree otherDirectory otherProject otherTable otherHolds perm
    rw [loaded, load_of_holdsTable otherHolds, ofTable_congr_influential holds.nodup_keys perm]

end Projects

/-! ## A project with two faulty settings -/

/-- The tool has a good name, which hides a faulty one, and two other settings are faulty. -/
def faultySettings : Text :=
  "[tool.lintsarif]\nindex-rules = 1\ntool_name = 3\ntool-name = ' Lint '\ntool_version = 8\n"

def faultyTable : Entries Toml.Value :=
  [("index-rules", .integer 1), ("tool_name", .integer 3), ("tool-name", .text " Lint "),
    ("tool_version", .integer 8)]

def faultyProject : Files.Tree :=
  [([Text.ofString "project"], .directory),
    ([Text.ofString "project", fileName], .file (faultySettings.flatMap Text.utf8Bytes))]

set_option maxRecDepth 4000 in
theorem holdsTable_faultyProject :
    HoldsTable faultyProject [] ⟨.slash, ["project"]⟩ faultyTable := by
  have isText := Text.decodeUtf8_utf8Bytes (Text.isSurrogateFree_ofString _ :
    faultySettings.IsSurrogateFree)
  have isDocument : Toml.read faultySettings.universalNewlines = .ok [(Text.ofString "tool",
      .table [(Text.ofString "lintsarif", .table faultyTable)])] := by
    with_unfolding_all rfl
  exact ⟨_, _, _, _, rfl, isText, isDocument, rfl, rfl⟩

/-- Of the two faulty settings the first one is told, however they are ordered in the file. -/
theorem load_validates_table_sample :
    HoldsTable faultyProject [] ⟨.slash, ["project"]⟩ faultyTable ∧
      load faultyProject [] ⟨.slash, ["project"]⟩ =
        .error (.config (.setting (.notText "tool-version"))) := by
  refine ⟨holdsTable_faultyProject, ?_⟩
  have passes : ∀ other ∈ [Setting.ignoreSuppressed, .toolName], ¬ IsRefused faultyTable other := by
    rintro other member ⟨value, isSelected, refused⟩
    simp only [List.mem_cons, List.not_mem_nil, or_false] at member
    rcases member with rfl | rfl
    · cases isSelected
    · cases isSelected
      exact refused ⟨_, rfl⟩
  have refused : IsRefused faultyTable .toolVersion := by
    refine ⟨_, rfl, ?_⟩
    rintro ⟨text, isText⟩
    cases isText
  exact ((load_validates_table holdsTable_faultyProject).1 _).2
    ⟨.toolVersion, ⟨_, _, rfl, passes, refused⟩, rfl, rfl⟩

end Findings.Config
