import Findings.Proofs.Command.ChosenOptions
import Findings.Proofs.Command.Projects
import Findings.Proofs.Command.Tasks
import Findings.Proofs.Text.Utf8
import Mathlib.Data.List.Infix

/-!
Contract: choices on the command line and choices in the settings of a project.

Owns:
- `ShowAlike`, two runs that show the same, or are refused under paths with brackets in them;
- `flags_like_settings`: a conversion does the same with choices on the command line as with choices in
  the settings, but for paths that the two ways read differently.

A file on the command line is not written out from the root, and one in the settings is.
-/

set_option autoImplicit false

namespace Findings.Command

open Config (Choices ChosenText Settings)
open Files (Tree Location)

/-! ## Preparation -/

section Preparation

variable {task other : Task} {surroundings otherSurroundings : Surroundings}
  {settings otherSettings : Settings}

/-- Two tasks end early in the same way, or both have the same log. -/
inductive PreparesAlike (settings otherSettings : Settings) :
    Except Halt Prepared → Except Halt Prepared → Prop where
  | error (halt : Halt) : PreparesAlike settings otherSettings (.error halt) (.error halt)
  | ok {prepared otherPrepared : Prepared} (isSettings : prepared.settings = settings)
      (isOtherSettings : otherPrepared.settings = otherSettings)
      (sameLog : otherPrepared.log = prepared.log) :
      PreparesAlike settings otherSettings (.ok prepared) (.ok otherPrepared)

theorem preparesAlike_of_loads (loads : task.loadSettings surroundings = .ok settings)
    (otherLoads : other.loadSettings otherSurroundings = .ok otherSettings)
    (sameText : task.reportText surroundings = other.reportText otherSurroundings)
    (sameLog : ∀ report, Sarif.Log.ofReport (task.optionsFor surroundings settings) report =
      Sarif.Log.ofReport (other.optionsFor otherSurroundings otherSettings) report) :
    PreparesAlike settings otherSettings (task.prepare surroundings)
      (other.prepare otherSurroundings) := by
  unfold Task.optionsFor at sameLog
  unfold Task.prepare
  rw [loads, otherLoads, ok_bind, ok_bind, sameText]
  cases other.reportText otherSurroundings with
  | error failure => exact .error _
  | ok text =>
      simp only [Except.mapError, ok_bind]
      cases Lint.readReport text with
      | error error => exact .error _
      | ok report =>
          simp only [ok_bind, sameLog]
          cases Sarif.Log.ofReport
              (otherSettings.options (other.base otherSurroundings.directory otherSettings).toText)
              report with
          | error fault => exact .error _
          | ok log => exact .ok rfl rfl rfl

theorem shown_halt (halt : Halt) (files otherFiles : Tree) :
    (halt.outcome files).shown = (halt.outcome otherFiles).shown := by
  cases halt with
  | usage error => rfl
  | crash cause => rfl
  | complaint message => exact shown_complain files otherFiles [] [] message

end Preparation

/-! ## Tasks -/

/-- An output that both ways take to the same file: its folder does not lie in the place of the
configuration file, and it is not too long in one way only. -/
structure OutputAgrees (directory : Location) (file : Text) : Prop where
  folder : Files.Avoids (settingsPlace directory) (Files.startOf directory (Path.ofText file))
    (Path.ofText file).segments.dropLast
  fit : FitAlike directory (Path.ofText file)

/-- Two runs show the same.  If there is a bracket in their paths, they can both be refused and show
different messages. -/
def ShowAlike (directory : Location) (output : Option ChosenText) (outcome other : Outcome) : Prop :=
  outcome.shown = other.shown ∨
    ∃ file ∈ output, (∃ name ∈ file.text :: directory, Terminal.openingBracket ∈ name) ∧
      outcome.IsRefusal (Path.ofText file.text) ∧
      other.IsRefusal (atRoot directory (Path.ofText file.text))

section Tasks

variable {choices : Choices} {bare settled : Surroundings} {reading : Reading}
  {chooses leaves : Task} {conversion otherConversion : Conversion}

theorem mem_of_mem_ofText {text name : Text} {c : CodePoint}
    (isName : name ∈ (Path.ofText text).segments) (inName : c ∈ name) : c ∈ text := by
  have isPart := (List.mem_filter.1 isName).1
  exact (Text.infix_of_mem_splitOn isPart).subset inName

/-- A chosen file can be looked at from the root if the working directory can. -/
theorem isPathText_atRoot {directory : Location}
    (names : ∀ name ∈ directory, Files.IsPathText name) (file : ChosenText) :
    Files.IsPathText (atRoot directory (Path.ofText file.text)).toText := by
  have isText := (Files.isPathText_ofText_iff _).2 (isPathText_of_chosen file)
  rw [Files.isPathText_toText_iff] at isText ⊢
  intro name isName
  rw [segments_atRoot, List.mem_append] at isName
  rcases isName with inFront | inPath
  · unfold Files.startOf at inFront
    split at inFront
    · cases inFront
    · exact names name inFront
  · exact isText name inPath

/-- Without brackets in their paths, refusals show the same. -/
theorem showAlike_of_refusals {directory : Location} {output : Option ChosenText}
    {outcome other : Outcome} {file : ChosenText} (isOutput : file ∈ output)
    (refused : outcome.IsRefusal (Path.ofText file.text))
    (refusedToo : other.IsRefusal (atRoot directory (Path.ofText file.text))) :
    ShowAlike directory output outcome other := by
  by_cases bracket : ∃ name ∈ file.text :: directory, Terminal.openingBracket ∈ name
  · exact .inr ⟨file, isOutput, bracket, refused, refusedToo⟩
  · have noBracket : ∀ name ∈ (Path.ofText file.text).segments, Terminal.openingBracket ∉ name :=
      fun name isName inName =>
        bracket ⟨file.text, List.mem_cons_self, mem_of_mem_ofText isName inName⟩
    have noBracketFromRoot : ∀ name ∈ (atRoot directory (Path.ofText file.text)).segments,
        Terminal.openingBracket ∉ name := by
      intro name isName inName
      rw [segments_atRoot, List.mem_append] at isName
      rcases isName with inFront | inPath
      · unfold Files.startOf at inFront
        split at inFront
        · cases inFront
        · exact bracket ⟨name, List.mem_cons_of_mem _ inFront, inName⟩
      · exact noBracket name inPath inName
    refine .inl ?_
    rw [shown_of_isRefusal refused noBracket, shown_of_isRefusal refusedToo noBracketFromRoot]

theorem prepare_alike (settles : Settles choices bare settled)
    (leavesOpen : reading.LeavesOpen bare.directory)
    (isRead : chooses.IsRead (choices.reading.behind reading) conversion)
    (isOtherRead : leaves.IsRead reading otherConversion)
    (sameText : chooses.reportText bare = leaves.reportText settled)
    (keeps : ∀ folder ∈ choices.baseFolder,
      (atRoot bare.directory (Path.ofText folder.text)).KeepsSplit) :
    PreparesAlike (chooses.job.settings {}) (leaves.job.settings choices.settings)
      (chooses.prepare bare) (leaves.prepare settled) := by
  have isProject : chooses.project bare.directory = ⟨.slash, bare.directory⟩ := by
    rw [isRead.project, project_behind leavesOpen]
  have isOtherProject : leaves.project bare.directory = ⟨.slash, bare.directory⟩ := by
    rw [isOtherRead.project, leavesOpen.project]
  rcases load_cases settles with ⟨error, unloaded, unloadedToo⟩ | ⟨loads, loadsToo⟩
  · have fails : chooses.loadSettings bare = .error (.ofLoad error) :=
      Task.loadSettings_eq_error_iff.2 ⟨error, by rw [isProject, unloaded], rfl⟩
    have failsToo : leaves.loadSettings settled = .error (.ofLoad error) :=
      Task.loadSettings_eq_error_iff.2
        ⟨error, by rw [settles.directory, isOtherProject, unloadedToo], rfl⟩
    unfold Task.prepare
    rw [fails, failsToo]
    exact .error _
  · refine preparesAlike_of_loads (Task.loadSettings_eq_ok_iff.2 ⟨{}, by rw [isProject, loads], rfl⟩)
      (Task.loadSettings_eq_ok_iff.2
        ⟨choices.settings, by rw [settles.directory, isOtherProject, loadsToo], rfl⟩) sameText ?_
    intro report
    rw [isRead.options, isOtherRead.options, settles.directory, options_behind leavesOpen,
      options_open leavesOpen]
    exact ofReport_of_sameUris _ (sameUris_of_keepsSplit keeps) report

/-- **One task, chosen and settled.**  A task with the choices on its command line does what the task
does with the choices in its settings. -/
theorem run_alike (settles : Settles choices bare settled)
    (leavesOpen : reading.LeavesOpen bare.directory)
    (isRead : chooses.IsRead (choices.reading.behind reading) conversion)
    (isOtherRead : leaves.IsRead reading otherConversion)
    (sameText : chooses.reportText bare = leaves.reportText settled)
    (keeps : ∀ folder ∈ choices.baseFolder,
      (atRoot bare.directory (Path.ofText folder.text)).KeepsSplit)
    (agrees : ∀ file ∈ choices.output, OutputAgrees bare.directory file.text) :
    ShowAlike bare.directory choices.output (chooses.run bare) (leaves.run settled) ∧
      ChangeAlike (settingsPlace bare.directory) bare.files settled.files
        (chooses.filesAfter bare) (leaves.filesAfter settled) := by
  have prepares := prepare_alike settles leavesOpen isRead isOtherRead sameText keeps
  have unchanged := ChangeAlike.refl settles.sameBut
  generalize isPrepared : chooses.prepare bare = left at prepares
  generalize isOtherPrepared : leaves.prepare settled = right at prepares
  cases prepares with
  | error halt =>
      unfold Task.run Task.filesAfter
      rw [isPrepared, isOtherPrepared]
      exact ⟨.inl (shown_halt halt _ _), unchanged⟩
  | @ok prepared otherPrepared isSettings isOtherSettings sameLog =>
      have sameCode : otherConversion.exitCode prepared.log = conversion.exitCode prepared.log := by
        rw [isRead.exitCode, isOtherRead.exitCode, exitCode_behind]
      have destination : chooses.destination? bare.directory prepared.settings =
          choices.output.map fun file => Path.ofText file.text := by
        rw [isSettings, isRead.destination?, destination?_behind leavesOpen]
      have otherDestination : leaves.destination? settled.directory otherPrepared.settings =
          choices.output.map fun file => atRoot bare.directory (Path.ofText file.text) := by
        rw [settles.directory, isOtherSettings, isOtherRead.destination?,
          destination?_open leavesOpen]
      rw [Task.run_of_isConversion isRead.job isPrepared,
        Task.run_of_isConversion isOtherRead.job isOtherPrepared,
        Task.filesAfter_of_prepare isPrepared, Task.filesAfter_of_prepare isOtherPrepared,
        destination, otherDestination]
      cases isOutput : choices.output with
      | none =>
          rw [isOutput] at destination otherDestination
          rw [Task.deliver_of_nowhere destination, Task.deliver_of_nowhere otherDestination, sameLog,
            sameCode]
          exact ⟨.inl rfl, unchanged⟩
      | some file =>
          rw [isOutput] at destination otherDestination
          obtain ⟨folder, fit⟩ := agrees file isOutput
          have isText := isPathText_atRoot settles.names file
          have alike := @writesAlike_atRoot _ _ _ prepared.log _ settles.directory settles.sameBut
            settles.hasSettled folder isText fit
          have changes := changeAlike_of_writesAlike settles.sameBut alike
          dsimp only [Option.map_some] at destination otherDestination ⊢
          rw [sameLog]
          refine ⟨?_, changes⟩
          rcases @shown_deliver _ _ _ _ conversion otherConversion _ _ _ _ destination
            otherDestination sameLog sameCode alike with same | ⟨refused, refusedToo⟩
          · exact .inl same
          · exact showAlike_of_refusals rfl refused refusedToo

end Tasks

/-! ## Command lines -/

/-- The report of a command line is the same in two trees: it is read from standard input, or from a
file that both trees have or lack. -/
def SameReport (directory : Location) (tree other : Tree) (reading : Reading) : Prop :=
  ∀ input ∈ reading.operands, input.trimBlank = Text.ofString "-" ∨
    Files.readFile tree directory (Path.ofText input) =
      Files.readFile other directory (Path.ofText input)

section CommandLines

variable {choices : Choices} {bare settled : Surroundings} {reading : Reading}

/-- How a conversion is read behind its command. -/
def convertJob (reading : Reading) : Except UsageError Job := (readConversion reading).map .convert

/-- What is asked of the values of options is the same in both projects. -/
theorem checkValue_settled (settles : Settles choices bare settled)
    (leavesOpen : reading.LeavesOpen bare.directory) :
    ∀ option ∈ reading.pathValues convertRules,
      checkValue bare option.1 option.2 = checkValue settled option.1 option.2 := by
  intro option member
  obtain ⟨rule, isUsed, isOption⟩ := List.mem_filterMap.1 member
  split at isOption
  · cases isOption
  · obtain ⟨value, isValue, rfl⟩ := Option.map_eq_some_iff.1 isOption
    dsimp only
    cases isRule : rule.value with
    | none => rfl
    | text => rfl
    | path => rfl
    | absolutePath => rfl
    | directory =>
        have onlyProject : ∀ rule ∈ convertRules, rule.value = .directory →
            rule.name = Text.ofString "project-root" := by decide
        obtain ⟨_, _, found⟩ := List.mem_filterMap.1 isUsed
        rw [onlyProject rule (List.mem_of_find?_eq_some found) isRule] at isValue
        have isProject := leavesOpen.project
        unfold Reading.project at isProject
        rw [isValue] at isProject
        dsimp only at isProject
        have sameThere := Files.isDirectory_sameBut settles.sameBut settles.has.noUp
          (show Files.Avoids _ (Files.startOf bare.directory ⟨.slash, bare.directory⟩) bare.directory
            from avoids_settingsPlace settles.has.noUp)
        unfold checkValue
        dsimp only
        rw [settles.directory, isProject, sameThere]

/-- The choices add paths that can be looked at, and nothing else to look at. -/
theorem checkValues_alike (settles : Settles choices bare settled)
    (leavesOpen : reading.LeavesOpen bare.directory) :
    ((choices.reading.behind reading).pathValues convertRules).forM
        (fun option => checkValue bare option.1 option.2) =
      (reading.pathValues convertRules).forM
        fun option => checkValue settled option.1 option.2 := by
  rw [Reading.pathValues_behind (disjoint_choices leavesOpen)]
  refine List.forM_append.trans ?_
  show ((choices.reading.pathValues convertRules).forM
      (fun option => checkValue bare option.1 option.2) >>= fun _ =>
    (reading.pathValues convertRules).forM fun option => checkValue bare option.1 option.2) = _
  rw [checkValues_choices, ok_bind]
  exact forM_congr (checkValue_settled settles leavesOpen)

/-- A conversion that leaves everything open can be read, with and without choices in front. -/
theorem exists_readConversion (leavesOpen : reading.LeavesOpen bare.directory) :
    (∃ conversion, readConversion (choices.reading.behind reading) = .ok conversion) ∧
      ∃ conversion, readConversion reading = .ok conversion := by
  have includes : (choices.reading.behind reading).uses "include-suppressed" = false := by
    rw [uses_behind_choices leavesOpen (by decide), uses_choices]
    simp
  unfold readConversion refuseBoth
  rw [includes, leavesOpen.unused _ (by decide), leavesOpen.unused _ (by decide), Bool.and_false]
  exact ⟨⟨_, rfl⟩, _, rfl⟩

/-- Both ways there is a task on the same report, or the arguments are faulty. -/
theorem readTask_cases (verbosity : Logging.Verbosity)
    (leavesOpen : reading.LeavesOpen bare.directory) :
    (∃ error, readTask verbosity convertJob (choices.reading.behind reading) = .error error ∧
        readTask verbosity convertJob reading = .error error) ∨
      ∃ chooses leaves conversion otherConversion,
        readTask verbosity convertJob (choices.reading.behind reading) = .ok chooses ∧
        readTask verbosity convertJob reading = .ok leaves ∧
        chooses.IsRead (choices.reading.behind reading) conversion ∧
        leaves.IsRead reading otherConversion ∧ chooses.input = leaves.input ∧
        leaves.input ∈ reading.operands := by
  obtain ⟨⟨conversion, converts⟩, otherConversion, convertsToo⟩ :=
    @exists_readConversion choices bare reading leavesOpen
  have sameInput : readInput (choices.reading.behind reading) = readInput reading := rfl
  unfold readTask convertJob
  rw [sameInput, converts, convertsToo]
  cases isInput : readInput reading with
  | error error => exact .inl ⟨error, rfl, rfl⟩
  | ok input =>
      have isOperand : input ∈ reading.operands := by
        unfold readInput at isInput
        split at isInput
        · cases isInput
        · rename_i isOnly
          cases isInput
          rw [isOnly]
          exact List.mem_singleton_self _
        · cases isInput
      exact .inr ⟨_, _, conversion, otherConversion, rfl, rfl, ⟨rfl, converts, rfl, rfl⟩,
        ⟨rfl, convertsToo, rfl, rfl⟩, rfl, isOperand⟩

theorem reportText_alike {chooses leaves : Task} (settles : Settles choices bare settled)
    (sameInput : chooses.input = leaves.input)
    (sameFile : leaves.input.trimBlank = Text.ofString "-" ∨
      Files.readFile bare.files bare.directory (Path.ofText leaves.input) =
        Files.readFile settled.files bare.directory (Path.ofText leaves.input)) :
    chooses.reportText bare = leaves.reportText settled := by
  unfold Task.reportText Task.readsStdin
  rw [sameInput, settles.input, settles.directory]
  rcases sameFile with isStdin | sameBytes
  · rw [isStdin]
    rfl
  · rw [sameBytes]

/-- **Behind the command.**  A conversion that is asked for with choices in front of its arguments does
what it does with the choices in its settings. -/
theorem askJob_alike (verbosity : Logging.Verbosity) {rest : List Text}
    (settles : Settles choices bare settled)
    (leavesOpen : ∀ reading, Reading.ofArguments convertRules true rest = .ok reading →
      reading.LeavesOpen bare.directory)
    (sameReport : ∀ reading, Reading.ofArguments convertRules true rest = .ok reading →
      SameReport bare.directory bare.files settled.files reading)
    (keeps : ∀ folder ∈ choices.baseFolder,
      (atRoot bare.directory (Path.ofText folder.text)).KeepsSplit)
    (agrees : ∀ file ∈ choices.output, OutputAgrees bare.directory file.text) :
    ShowAlike bare.directory choices.output
        ((askJob verbosity convertRules convertJob (choices.flags ++ rest)).run bare)
        ((askJob verbosity convertRules convertJob rest).run settled) ∧
      ChangeAlike (settingsPlace bare.directory) bare.files settled.files
        ((askJob verbosity convertRules convertJob (choices.flags ++ rest)).filesAfter bare)
        ((askJob verbosity convertRules convertJob rest).filesAfter settled) := by
  have unchanged := ChangeAlike.refl settles.sameBut
  unfold askJob
  rw [ofArguments_flags]
  cases read : Reading.ofArguments convertRules true rest with
  | error error => exact ⟨.inl rfl, unchanged⟩
  | ok reading =>
      have isOpen := leavesOpen reading read
      have sameHelp : (choices.reading.behind reading).uses "help" = reading.uses "help" := by
        rw [Reading.uses_behind, unused_choices (by decide), Bool.false_or]
      rw [ok_map]
      dsimp only
      rw [sameHelp]
      cases reading.uses "help" with
      | true => exact ⟨.inl rfl, unchanged⟩
      | false =>
          have sameChecks := @checkValues_alike choices _ _ _ settles isOpen
          rw [if_neg Bool.false_ne_true, if_neg Bool.false_ne_true]
          unfold Asked.run Asked.filesAfter
          dsimp only
          rw [sameChecks]
          cases (reading.pathValues convertRules).forM
              fun option => checkValue settled option.1 option.2 with
          | error halt => exact ⟨.inl (shown_halt halt _ _), unchanged⟩
          | ok =>
              dsimp only
              rcases readTask_cases verbosity isOpen with
                ⟨error, faulty, faultyToo⟩ | ⟨chooses, leaves, conversion, otherConversion, isTask,
                  isOtherTask, isRead, isOtherRead, sameInput, isOperand⟩
              · rw [faulty, faultyToo]
                exact ⟨.inl rfl, unchanged⟩
              · rw [isTask, isOtherTask]
                have sameText := reportText_alike settles sameInput
                  (sameReport reading read leaves.input isOperand)
                exact run_alike settles isOpen isRead isOtherRead sameText keeps agrees

/-- What runs no task looks at no file. -/
theorem shown_of_isIdle {asked : Asked} (idle : asked.IsIdle) (surroundings other : Surroundings) :
    (asked.run surroundings).shown = (asked.run other).shown ∧
      asked.filesAfter surroundings = surroundings.files := by
  obtain ⟨paths, request⟩ := asked
  obtain ⟨noPaths, noTask⟩ := idle
  dsimp only at noPaths noTask
  subst noPaths
  rcases request with error | _ | _ | task
  · exact ⟨rfl, rfl⟩
  · exact ⟨rfl, rfl⟩
  · exact ⟨rfl, rfl⟩
  · exact absurd rfl (noTask task)

/-- **Flags like settings.**  A conversion with choices on the command line does what it does without
them in a project that has these choices in its settings: it shows the same and leaves the same content
in every file.  That holds where the base folder takes back no segment that backslashes split, and the
output does not lie below the configuration file and is not too long in one way only.  If there are
brackets in the output, and writing it is refused, the message can be different. -/
theorem flags_like_settings {program rest : List Text}
    (commandFirst : Reading.IsFirstOperand programRules false program "convert")
    (settles : Settles choices bare settled)
    (leavesOpen : ∀ reading, Reading.ofArguments convertRules true rest = .ok reading →
      reading.LeavesOpen bare.directory)
    (sameReport : ∀ reading, Reading.ofArguments convertRules true rest = .ok reading →
      SameReport bare.directory bare.files settled.files reading)
    (keeps : ∀ folder ∈ choices.baseFolder,
      (atRoot bare.directory (Path.ofText folder.text)).KeepsSplit)
    (agrees : ∀ file ∈ choices.output, OutputAgrees bare.directory file.text) :
    ShowAlike bare.directory choices.output
        (run (program ++ Text.ofString "convert" :: (choices.flags ++ rest)) bare)
        (run (program ++ Text.ofString "convert" :: rest) settled) ∧
      ChangeAlike (settingsPlace bare.directory) bare.files settled.files
        (filesAfter (program ++ Text.ofString "convert" :: (choices.flags ++ rest)) bare)
        (filesAfter (program ++ Text.ofString "convert" :: rest) settled) := by
  have isJob : ∀ verbosity, command? verbosity (Text.ofString "convert") =
      some (askJob verbosity convertRules convertJob) := fun _ => rfl
  unfold run filesAfter
  rcases ofArguments_command isJob commandFirst with ⟨asked, idle, asks⟩ | ⟨verbosity, asks⟩
  · rw [asks, asks, (shown_of_isIdle idle bare settled).2, (shown_of_isIdle idle settled bare).2]
    exact ⟨.inl (shown_of_isIdle idle bare settled).1, .refl settles.sameBut⟩
  · rw [asks, asks]
    exact askJob_alike verbosity settles leavesOpen sameReport keeps agrees

end CommandLines

/-! ## Projects with a report on standard input -/

/-- A project without settings, and a report. -/
def projectOf (report : Text) : Surroundings where
  files := [([Text.ofString "project"], .directory)]
  directory := [Text.ofString "project"]
  input := report

/-- A report on one file of the project. -/
def projectReport : Text :=
  "[\x7b\"filePath\": \"/project/a.js\", \"messages\": [\x7b\"message\": \"m\", \"ruleId\": \"r\"\x7d]\x7d]"

theorem settles_projectOf {choices : Choices} {bytes : List UInt8} (areIn : choices.AreIn bytes)
    (report : Text) : Settles choices (projectOf report) ((projectOf report).withSettings bytes) :=
  settles_withSettings rfl ⟨(by decide : Path.up ∉ [Text.ofString "project"]), rfl, rfl⟩
    (by decide : ∀ name ∈ [Text.ofString "project"], Files.IsPathText name) areIn

/-- The arguments behind the command that ask for a report from standard input. -/
def fromStdin : List Text := ["-"]

theorem ofArguments_fromStdin :
    Reading.ofArguments convertRules true fromStdin = .ok { operands := ["-"] } := rfl

theorem leavesOpen_fromStdin :
    ∀ reading, Reading.ofArguments convertRules true fromStdin = .ok reading →
      reading.LeavesOpen [Text.ofString "project"] := by
  intro reading read
  cases ofArguments_fromStdin.symm.trans read
  exact ⟨by decide, rfl⟩

theorem sameReport_fromStdin (directory : Location) (tree other : Tree) :
    ∀ reading, Reading.ofArguments convertRules true fromStdin = .ok reading →
      SameReport directory tree other reading := by
  intro reading read input isInput
  cases ofArguments_fromStdin.symm.trans read
  rw [List.mem_singleton.1 isInput]
  exact .inl rfl

/-- Choices of every kind of value. -/
def someChoices : Choices where
  ignoreSuppressed := true
  toolName := some ⟨"Linter", by decide, by decide, by decide, Text.isSurrogateFree_ofString _⟩
  baseFolder := some ⟨"src/../lib", by decide, by decide, by decide, Text.isSurrogateFree_ofString _⟩
  output := some ⟨"logs/log.sarif", by decide, by decide, by decide, Text.isSurrogateFree_ofString _⟩

def someSettings : Text :=
  "[tool.lintsarif]\nignore-suppressed = true\ntool-name = 'Linter'\nbase-folder = 'src/../lib'\noutput = 'logs/log.sarif'\n"

set_option maxRecDepth 4000 in
theorem areIn_someSettings : someChoices.AreIn (someSettings.flatMap Text.utf8Bytes) := by
  have isText := Text.decodeUtf8_utf8Bytes (Text.isSurrogateFree_ofString _ :
    someSettings.IsSurrogateFree)
  have isDocument : Toml.read someSettings.universalNewlines = .ok [(Text.ofString "tool",
      .table [(Text.ofString "lintsarif", .table someChoices.table)])] := by
    with_unfolding_all rfl
  exact ⟨_, _, isText, isDocument, fun key => rfl⟩

theorem flags_like_settings_sample :
    someChoices.flags = ["--ignore-suppressed", "--tool-name=Linter", "--base-folder=src/../lib",
        "--output=logs/log.sarif"] ∧
      ShowAlike [Text.ofString "project"] someChoices.output
        (run ("convert" :: (someChoices.flags ++ fromStdin)) (projectOf projectReport))
        (run ("convert" :: fromStdin)
          ((projectOf projectReport).withSettings (someSettings.flatMap Text.utf8Bytes))) := by
  have commandFirst : Reading.IsFirstOperand programRules false [] "convert" := by
    intro reading isFront
    cases isFront
    exact ⟨rfl, .inr ⟨rfl, by decide⟩⟩
  have keeps : ∀ folder ∈ someChoices.baseFolder,
      (atRoot [Text.ofString "project"] (Path.ofText folder.text)).KeepsSplit := by
    intro folder isFolder
    cases isFolder
    unfold Path.KeepsSplit
    decide
  have agrees : ∀ file ∈ someChoices.output, OutputAgrees [Text.ofString "project"] file.text := by
    intro file isOutput
    cases isOutput
    have past : ∀ front ∈ [Text.ofString "logs"].inits,
        Files.along [Text.ofString "project"] front ≠ settingsPlace [Text.ofString "project"] := by
      decide
    exact ⟨fun front inFront => past front ((List.mem_inits _ _).2 inFront), .inl (by decide)⟩
  exact ⟨rfl, (flags_like_settings commandFirst (settles_projectOf areIn_someSettings projectReport)
    leavesOpen_fromStdin (sameReport_fromStdin _ _ _) keeps agrees).1⟩

/-- A base folder whose first segment is two names if backslashes separate names too. -/
def splitChoices : Choices where
  baseFolder := some ⟨"x\\y/..", by decide, by decide, by decide, Text.isSurrogateFree_ofString _⟩
  noFingerprints := true

def splitSettings : Text :=
  "[tool.lintsarif]\nbase-folder = 'x\\y/..'\nfingerprints = false\n"

set_option maxRecDepth 4000 in
/-- On the command line the `..` takes back both names of such a base folder, and in the settings one of
them, so that the locations in the log are different. -/
theorem flags_unlike_settings :
    splitChoices.flags = ["--base-folder=x\\y/..", "--no-fingerprints"] ∧
      Settles splitChoices (projectOf projectReport)
        ((projectOf projectReport).withSettings (splitSettings.flatMap Text.utf8Bytes)) ∧
      ∃ ending other,
        run ("convert" :: (splitChoices.flags ++ fromStdin)) (projectOf projectReport) =
            .ended ending ∧
          run ("convert" :: fromStdin) ((projectOf projectReport).withSettings
            (splitSettings.flatMap Text.utf8Bytes)) = .ended other ∧
          ending.stdout ≠ other.stdout := by
  have isText := Text.decodeUtf8_utf8Bytes (Text.isSurrogateFree_ofString _ :
    splitSettings.IsSurrogateFree)
  have isDocument : Toml.read splitSettings.universalNewlines = .ok [(Text.ofString "tool",
      .table [(Text.ofString "lintsarif", .table splitChoices.table)])] := by
    with_unfolding_all rfl
  have areIn : splitChoices.AreIn (splitSettings.flatMap Text.utf8Bytes) :=
    ⟨_, _, isText, isDocument, fun key => rfl⟩
  refine ⟨rfl, settles_projectOf areIn projectReport, ?_⟩
  have different : (match run ("convert" :: (splitChoices.flags ++ fromStdin))
        (projectOf projectReport), run ("convert" :: fromStdin)
          ((projectOf projectReport).withSettings (splitSettings.flatMap Text.utf8Bytes)) with
      | .ended ending, .ended other => decide (ending.stdout ≠ other.stdout)
      | _, _ => false) = true := by decide +kernel
  split at different
  · rename_i ending other isRun isOther
    exact ⟨ending, other, isRun, isOther, of_decide_eq_true different⟩
  · cases different

end Findings.Command
