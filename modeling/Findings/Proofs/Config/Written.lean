import Findings.Proofs.Config.Validation
import Findings.Proofs.Toml.Statements
import Mathlib.Data.List.Nodup

/-!
Contract: a written table of settings is read back.

Owns:
- `Assignment`, a setting with a value for it and the spelling of its key, and `IsWritten`, the
  texts that are a heading and a line for every assignment, in any order;
- the table that such a text holds (`holdsTable_of_isWritten`), and the settings that follow from it
  (`load_written`).
-/

set_option autoImplicit false

namespace Findings.Config

/-! ## Assignments -/

/-- A value of the right kind for a setting, and the spelling of its key. -/
structure Assignment where
  setting : Setting
  /-- The key is spelled with underscores in the place of hyphens. -/
  underscored : Bool
  value : Toml.Value
  takes : setting.Takes value

namespace Assignment

def key (assignment : Assignment) : Text :=
  if assignment.underscored then assignment.setting.otherKey else assignment.setting.key

def entry (assignment : Assignment) : Text × Toml.Value := (assignment.key, assignment.value)

/-- The ways to write an assignment on a line. -/
def IsLine (assignment : Assignment) (line : Text) : Prop :=
  ∃ spelling, Toml.SpellsValue assignment.value spelling ∧
    line = Toml.assignment assignment.key spelling

end Assignment

/-- The key of the table of settings. -/
def tableKey : Toml.Key := [Text.ofString "tool", Text.ofString "lintsarif"]

/-- A text is a heading and then a line for every assignment. -/
def IsWritten (assignments : List Assignment) (text : Text) : Prop :=
  ∃ lines, List.Forall₂ Assignment.IsLine assignments lines ∧
    Text.HasLines (fun _ => True) (Toml.heading tableKey :: lines) text

/-! ## Keys -/

/-- The two spellings of the key of a setting. -/
def Setting.IsSpelled (setting : Setting) (key : Text) : Prop :=
  key = setting.key ∨ key = setting.otherKey

theorem Setting.isBare_of_isSpelled {setting : Setting} {key : Text}
    (spelled : setting.IsSpelled key) : Toml.IsBare key := by
  rcases spelled with rfl | rfl <;> cases setting <;> decide

/-- No key is spelled like that of another setting. -/
theorem Setting.eq_of_isSpelled {setting other : Setting} {key : Text}
    (spelled : setting.IsSpelled key) (spelledToo : other.IsSpelled key) : setting = other := by
  have apart : ∀ left ∈ Setting.all, ∀ right ∈ Setting.all, left ≠ right →
      left.key ≠ right.key ∧ left.key ≠ right.otherKey ∧ left.otherKey ≠ right.otherKey := by
    decide
  by_contra different
  have leftApart := apart setting setting.mem_all other other.mem_all different
  have rightApart := apart other other.mem_all setting setting.mem_all (Ne.symm different)
  rcases spelled with rfl | rfl <;> rcases spelledToo with same | same
  · exact leftApart.1 same
  · exact leftApart.2.1 same
  · exact rightApart.2.1 same.symm
  · exact leftApart.2.2 same

theorem Assignment.isSpelled_key (assignment : Assignment) :
    assignment.setting.IsSpelled assignment.key := by
  unfold Assignment.key
  split
  · exact .inr rfl
  · exact .inl rfl

section Assignments

variable {assignments : List Assignment}

theorem nodup_keys_of_nodup (once : (assignments.map Assignment.setting).Nodup) :
    (Entries.keys (assignments.map Assignment.entry)).Nodup := by
  unfold Entries.keys
  rw [List.map_map]
  refine (List.pairwise_map.1 once).map _ fun left right different same => different ?_
  have sameKey : left.key = right.key := same
  exact Setting.eq_of_isSpelled left.isSpelled_key (sameKey ▸ right.isSpelled_key)

/-- What a spelling of a key finds is the value of an assignment to the setting. -/
theorem exists_assignment_of_find? {setting : Setting} {key : Text} {value : Toml.Value}
    (spelled : setting.IsSpelled key)
    (found : Entries.find? key (assignments.map Assignment.entry) = some value) :
    ∃ assignment ∈ assignments, assignment.setting = setting ∧ assignment.value = value := by
  obtain ⟨assignment, member, isEntry⟩ := List.mem_map.1 (Entries.mem_of_find? found)
  cases isEntry
  exact ⟨assignment, member, Setting.eq_of_isSpelled assignment.isSpelled_key spelled, rfl⟩

theorem exists_assignment_of_selected? {setting : Setting} {value : Toml.Value}
    (isSelected : selected? (assignments.map Assignment.entry) setting = some value) :
    ∃ assignment ∈ assignments, assignment.setting = setting ∧ assignment.value = value := by
  unfold selected? at isSelected
  rcases Option.or_eq_some_iff.1 isSelected with found | ⟨_, found⟩
  · exact exists_assignment_of_find? (.inl rfl) found
  · exact exists_assignment_of_find? (.inr rfl) found

/-- A table of assignments gives to a setting what is assigned to it. -/
theorem selected?_of_mem (once : (assignments.map Assignment.setting).Nodup)
    {assignment : Assignment} (member : assignment ∈ assignments) :
    selected? (assignments.map Assignment.entry) assignment.setting = some assignment.value := by
  cases isSelected : selected? (assignments.map Assignment.entry) assignment.setting with
  | none =>
      obtain ⟨noneFound, noneFoundToo⟩ := Option.or_eq_none_iff.1 isSelected
      have found : Entries.find? assignment.key (assignments.map Assignment.entry) =
          some assignment.value :=
        Entries.find?_of_mem (nodup_keys_of_nodup once) (List.mem_map_of_mem member)
      rcases assignment.isSpelled_key with isKey | isKey
      · rw [isKey, noneFound] at found
        cases found
      · rw [isKey, noneFoundToo] at found
        cases found
  | some value =>
      obtain ⟨other, otherMember, sameSetting, rfl⟩ := exists_assignment_of_selected? isSelected
      rw [List.inj_on_of_nodup_map once otherMember member sameSetting]

theorem selected?_of_not_mem {setting : Setting}
    (unset : setting ∉ assignments.map Assignment.setting) :
    selected? (assignments.map Assignment.entry) setting = none := by
  rw [Option.eq_none_iff_forall_ne_some]
  intro value isSelected
  obtain ⟨assignment, member, rfl, _⟩ := exists_assignment_of_selected? isSelected
  exact unset (List.mem_map_of_mem member)

theorem not_isRefused_assignments (setting : Setting) :
    ¬ IsRefused (assignments.map Assignment.entry) setting := by
  rintro ⟨value, isSelected, refused⟩
  obtain ⟨assignment, _, rfl, rfl⟩ := exists_assignment_of_selected? isSelected
  exact refused assignment.takes

end Assignments

/-! ## The document -/

/-- A document that is read up to some entries of the table of settings. -/
def documentOf (entries : Entries Toml.Value) : Toml.Document where
  table := [("tool", .table [("lintsarif", .table entries)])]
  heading := tableKey
  declared := [tableKey]

theorem isStatement_tableKey :
    Toml.IsStatement {} (Toml.heading tableKey) (documentOf []) :=
  Toml.isStatement_heading (by decide) rfl

/-- A change of the table of settings changes nothing around it. -/
theorem changeParent_documentOf {entries changed : Entries Toml.Value} {name : Text}
    (change : Text → Toml.Table → Option Toml.Table)
    (isChanged : change name entries = some changed) :
    Toml.Table.changeParent .lastItem change (tableKey ++ [name]) (documentOf entries).table =
      some (documentOf changed).table := by
  have isTool : Entries.find? (Text.ofString "tool") (documentOf entries).table =
      some (.table [(Text.ofString "lintsarif", .table entries)]) := rfl
  have isTable : Entries.find? (Text.ofString "lintsarif")
      [(Text.ofString "lintsarif", Toml.Value.table entries)] = some (.table entries) := rfl
  have isParent : (tableKey ++ [name]).dropLast = tableKey := rfl
  have isName : (tableKey ++ [name]).getLast?.getD [] = name := rfl
  rw [Toml.Table.changeParent, isParent, isName]
  simp only [tableKey, Toml.Table.changeBehind, isTool, isTable, isChanged, Option.map_some]
  rfl

/-- A key that is still free is put behind the others. -/
theorem assign_documentOf {entries : Entries Toml.Value} {name : Text} {value : Toml.Value}
    (fresh : name ∉ entries.keys) (isScalar : value.isContainer = false) :
    (documentOf entries).assign [name] value = .ok (documentOf (entries ++ [(name, value)])) := by
  have isAdded : Toml.Table.addMember name value entries = some (entries ++ [(name, value)]) := by
    unfold Toml.Table.addMember
    rw [Entries.find?_of_not_mem fresh, Entries.insert_of_not_mem fresh]
  have isChanged :=
    changeParent_documentOf (fun name => Toml.Table.addMember name value) isAdded
  have noneOpened : Toml.Document.properBeginnings [name] = [] := rfl
  have noneSealed : ∀ key, Toml.reaches (documentOf entries).sealed key = false := fun key => rfl
  have isHeading : (documentOf entries).heading = tableKey := rfl
  unfold Toml.Document.assign
  dsimp only
  rw [noneOpened, List.map_nil, List.find?_nil, noneSealed, if_neg Bool.false_ne_true, isHeading]
  dsimp only
  rw [isChanged, isScalar, if_neg Bool.false_ne_true]
  rfl

theorem isStatement_assignment {assignment : Assignment} {line : Text}
    (isLine : assignment.IsLine line) {entries : Entries Toml.Value}
    (fresh : assignment.key ∉ entries.keys) :
    Toml.IsStatement (documentOf entries) line (documentOf (entries ++ [assignment.entry])) := by
  obtain ⟨spelling, spells, rfl⟩ := isLine
  have isBare := Setting.isBare_of_isSpelled assignment.isSpelled_key
  exact Toml.isStatement_assignment isBare spells (assign_documentOf fresh spells.isContainer)

/-- The lines of assignments put their entries behind those that are there. -/
theorem leads_assignments {assignments : List Assignment} {lines : List Text}
    (areLines : List.Forall₂ Assignment.IsLine assignments lines) (entries : Entries Toml.Value)
    (once : (Entries.keys (entries ++ assignments.map Assignment.entry)).Nodup) :
    Toml.Leads (documentOf entries) lines
      (documentOf (entries ++ assignments.map Assignment.entry)) := by
  induction areLines generalizing entries with
  | nil =>
      rw [List.map_nil, List.append_nil]
      exact .nil _
  | @cons assignment line assignments lines isLine _ inductionHypothesis =>
      have splits : entries ++ (assignment :: assignments).map Assignment.entry =
          entries ++ [assignment.entry] ++ assignments.map Assignment.entry := by
        rw [List.map_cons, List.append_assoc, List.singleton_append]
      rw [splits] at once ⊢
      have fresh : assignment.key ∉ entries.keys := by
        unfold Entries.keys at once ⊢
        rw [List.append_assoc, List.map_append] at once
        exact fun member => List.disjoint_of_nodup_append once member List.mem_cons_self
      exact .cons (isStatement_assignment isLine fresh) (inductionHypothesis _ once)

/-- **What is written.**  The table of settings in a written text is that of the assignments. -/
theorem read_of_isWritten {assignments : List Assignment} {text : Text}
    (written : IsWritten assignments text) (once : (assignments.map Assignment.setting).Nodup) :
    Text.decodeUtf8 (text.flatMap Text.utf8Bytes) = .ok text ∧
      Toml.read text.universalNewlines =
        .ok (documentOf (assignments.map Assignment.entry)).table := by
  obtain ⟨lines, areLines, hasLines⟩ := written
  have plain : ∀ line ∈ Toml.heading tableKey :: lines, line ≠ [] ∧ ∀ c ∈ line, Toml.IsPlain c := by
    intro line member
    rcases List.mem_cons.1 member with rfl | isLine
    · decide
    · obtain ⟨assignment, _, spelling, spells, rfl⟩ := exists_of_forall₂_right areLines isLine
      have isBare := Setting.isBare_of_isSpelled assignment.isSpelled_key
      exact ⟨List.append_ne_nil_of_left_ne_nil isBare.1 _, Toml.isPlain_assignment isBare spells⟩
  have free : text.IsSurrogateFree :=
    hasLines.isSurrogateFree fun line member c inLine => ((plain line member).2 c inLine).2
  have hasFeeds := hasLines.universalNewlines fun line member =>
    Toml.isLine_of_isPlain (plain line member).1 (plain line member).2
  have leads := leads_assignments areLines [] (nodup_keys_of_nodup once)
  refine ⟨Text.decodeUtf8_utf8Bytes free, ?_⟩
  rw [Toml.read, Toml.readStatements_of_leads (.cons isStatement_tableKey leads) hasFeeds]
  rfl

/-! ## The settings -/

/-- What an option of a log is that is chosen by a setting.  No option says where the log goes. -/
def optionOf? (options : Sarif.Options) : Setting → Option Toml.Value
  | .ignoreSuppressed => some (.bool options.ignoreSuppressed)
  | .toolName => some (.text options.toolName)
  | .toolVersion => options.toolVersion.map .text
  | .informationUri => some (.text options.informationUri)
  | .baseFolder => some (.text options.baseFolder)
  | .fingerprints => some (.bool options.fingerprints)
  | .indexRules => some (.bool options.indexRules)
  | .output => none

theorem optionOf?_options (settings : Settings) (folder : Text) (setting : Setting) :
    optionOf? (settings.options folder) setting =
      if setting = .baseFolder then some (.text folder)
      else if setting = .output then none
      else settings.value? setting := by
  cases setting <;> rfl

section Projects

variable {tree : Files.Tree} {directory : Files.Location} {project : Path}
  {assignments : List Assignment} {text : Text}

theorem holdsTable_of_isWritten
    (isFile : Files.readFile tree directory (fileOf project) = .ok (text.flatMap Text.utf8Bytes))
    (written : IsWritten assignments text) (once : (assignments.map Assignment.setting).Nodup) :
    HoldsTable tree directory project (assignments.map Assignment.entry) := by
  obtain ⟨isText, isDocument⟩ := read_of_isWritten written once
  exact ⟨_, _, _, _, isFile, isText, isDocument, rfl, rfl⟩

/-- **Reading back.**  Of a file that assigns values to some settings, in any order, spelling and way
to end its lines, the settings are loaded that have these values, without the blanks around a text,
and that are by default where nothing is assigned or a text of blanks alone.  The options of a log are
these settings, with whatever base folder they are given. -/
theorem load_written
    (isFile : Files.readFile tree directory (fileOf project) = .ok (text.flatMap Text.utf8Bytes))
    (written : IsWritten assignments text) (once : (assignments.map Assignment.setting).Nodup) :
    ∃ settings, load tree directory project = .ok settings ∧
      (∀ assignment ∈ assignments,
        settings.value? assignment.setting =
          settled? assignment.setting (some assignment.value)) ∧
      (∀ setting, setting ∉ assignments.map Assignment.setting →
        settings.value? setting = ({} : Settings).value? setting) ∧
      ∀ folder setting, optionOf? (settings.options folder) setting =
        if setting = .baseFolder then some (.text folder)
        else if setting = .output then none
        else settings.value? setting := by
  obtain ⟨settings, isOk⟩ := exists_ofTable_eq_ok fun setting => not_isRefused_assignments setting
  have values := (ofTable_eq_ok_iff.1 isOk).2
  have loaded := load_of_holdsTable (holdsTable_of_isWritten isFile written once)
  rw [isOk] at loaded
  refine ⟨settings, loaded, fun assignment member => ?_, fun setting unset => ?_,
    optionOf?_options settings⟩
  · rw [values, selected?_of_mem once member]
  · rw [values, selected?_of_not_mem unset]
    rfl

end Projects

/-! ## A file with escapes and two kinds of line ends -/

/-- The keys are spelled in both ways, the tool has a name with blanks and quotes, and the output is
blank. -/
def sampleAssignments : List Assignment :=
  [⟨.indexRules, true, .bool false, ⟨false, rfl⟩⟩,
    ⟨.toolName, false, .text " ä \"L\" ", ⟨_, rfl⟩⟩,
    ⟨.output, false, .text "\t", ⟨_, rfl⟩⟩]

def sampleFile : Text :=
  Text.ofString "[tool.lintsarif]\r\nindex_rules = false\n" ++
    Text.ofString "tool-name = \" \\u00e4 \\\"L\\\" \"\r\noutput = \"\\U00000009\""

def sampleProject : Files.Tree :=
  [([Text.ofString "project"], .directory),
    ([Text.ofString "project", fileName], .file (sampleFile.flatMap Text.utf8Bytes))]

theorem isWritten_sampleFile : IsWritten sampleAssignments sampleFile := by
  have isUmlaut : Toml.SpellsNumber (CodePoint.ofChar 'ä').val "00e4" :=
    Toml.spellsNumber_hexadecimal 4 (by decide)
  have isTab : Toml.SpellsNumber (CodePoint.ofChar '\t').val "00000009" :=
    Toml.spellsNumber_hexadecimal 8 (by decide)
  have isQuote : Toml.SpellsPoint (CodePoint.ofChar '"') "\\\"" := .letter (by decide)
  have itself : ∀ c ∈ [CodePoint.ofChar ' ', 'L'], Toml.SpellsPoint c [c] := by
    intro c member
    refine .itself ?_ ?_ ?_ <;> revert c <;> decide
  have isName : Toml.SpellsBasic " ä \"L\" " " \\u00e4 \\\"L\\\" " :=
    .cons (itself _ (by decide)) (.cons (.fourDigits isUmlaut rfl) (.cons (itself _ (by decide))
      (.cons isQuote (.cons (itself _ (by decide)) (.cons isQuote
        (.cons (itself _ (by decide)) .nil))))))
  have isBlank : Toml.SpellsBasic "\t" "\\U00000009" := .cons (.eightDigits isTab rfl) .nil
  refine ⟨[_, _, _], .cons ⟨_, .no, rfl⟩ (.cons ⟨_, .text ?_ isName, rfl⟩
    (.cons ⟨_, .text ?_ isBlank, rfl⟩ .nil)), ?_⟩
  · exact Text.isSurrogateFree_ofString _
  · exact Text.isSurrogateFree_ofString _
  · exact @Text.HasLines.cons _ .returnAndFeed _ _ _ trivial
      (@Text.HasLines.cons _ .feed _ _ _ trivial
        (@Text.HasLines.cons _ .returnAndFeed _ _ _ trivial (.unended _)))

/-- The name is read back without the blanks around it, the blank output is none, and what is not
assigned is as by default. -/
theorem load_written_sample :
    Files.readFile sampleProject [] (fileOf ⟨.slash, [Text.ofString "project"]⟩) =
        .ok (sampleFile.flatMap Text.utf8Bytes) ∧
      IsWritten sampleAssignments sampleFile ∧
      (sampleAssignments.map Assignment.setting).Nodup ∧
      ∃ settings, load sampleProject [] ⟨.slash, [Text.ofString "project"]⟩ = .ok settings ∧
        settings.value? .indexRules = some (.bool false) ∧
        settings.value? .toolName = some (.text "ä \"L\"") ∧
        settings.value? .output = none ∧
        settings.value? .fingerprints = some (.bool true) := by
  have isFile : Files.readFile sampleProject [] (fileOf ⟨.slash, [Text.ofString "project"]⟩) =
      .ok (sampleFile.flatMap Text.utf8Bytes) := rfl
  have once : (sampleAssignments.map Assignment.setting).Nodup := by decide
  obtain ⟨settings, loaded, given, others, _⟩ := load_written isFile isWritten_sampleFile once
  refine ⟨isFile, isWritten_sampleFile, once, settings, loaded, ?_, ?_, ?_, ?_⟩
  · exact given _ (.head _)
  · exact given _ (.tail _ (.head _))
  · exact given _ (.tail _ (.tail _ (.head _)))
  · exact others .fingerprints (by decide)

end Findings.Config
