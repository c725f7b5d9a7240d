import Findings.Proofs.Command.Aftermath
import Findings.Proofs.Command.Values
import Findings.Proofs.Json.RoundTrip

/-!
Contract: a conversion from the command line to the text that it hands over.

Owns:
- what a conversion works with: for each setting, whether the command line or the project goes
  first, and from which folder each path is taken;
- `convert_emits_log`: the text is that of the log of the report under these settings, and it is all
  that a run hands over.

Does not own: how options are found among the arguments, and how settings are found in a file.
-/

set_option autoImplicit false

namespace Findings.Command

/-! ## Choices -/

namespace Reading

variable (reading : Reading) (directory : Files.Location) (settings : Config.Settings)

/-- The folder of the project: the one that is named, or the working directory. -/
def project : Path :=
  match reading.value? "project-root" with
  | some folder => resolve directory folder
  | none => resolve directory []

/-- A folder that the command line names is taken from the working directory, and one that the
settings name from the project. -/
def base : Path :=
  match reading.value? "base-folder", settings.baseFolder with
  | some folder, _ => resolve directory folder
  | none, some folder => (reading.project directory).join (Path.ofText folder)
  | none, none => reading.project directory

/-- The options of the log.  An empty text on the command line chooses nothing. -/
def options : Sarif.Options where
  ignoreSuppressed :=
    if reading.uses "ignore-suppressed" then true
    else if reading.uses "include-suppressed" then false
    else settings.ignoreSuppressed
  toolName :=
    match reading.value? "tool-name" with
    | none | some [] => settings.toolName
    | some name => name
  toolVersion :=
    match reading.value? "tool-version" with
    | none | some [] => settings.toolVersion
    | some version => some version
  fingerprints := if reading.uses "no-fingerprints" then false else settings.fingerprints
  informationUri := settings.informationUri
  indexRules := settings.indexRules
  baseFolder := (reading.base directory settings).toText

/-- The file for the log: one that the command line names is taken from the working directory, and
one that the settings name from the project. -/
def destination? : Option Path :=
  match reading.value? "output", settings.output with
  | some file, _ => some (Path.ofText file)
  | none, some file => some ((reading.project directory).join (Path.ofText file))
  | none, none => none

/-- A log that tells of a failed run matters for the exit code if it is asked for. -/
def exitCode (log : Sarif.Log) : Nat :=
  if reading.uses "fail-on-error" ∧ log.executionSuccessful = false then 1 else 0

end Reading

/-- Arguments ask for a conversion whose options and operands are read like this. -/
structure Converts (arguments : List Text) (reading : Reading) : Prop where
  command : ∃ program rest, Reading.ofArguments programRules false arguments = .ok program ∧
    immediate? program = none ∧ program.operands = Text.ofString "convert" :: rest ∧
    Reading.ofArguments convertRules true rest = .ok reading
  noHelp : reading.uses "help" = false

/-- A text followed by a line feed is all that a run hands over: as the content of a file, or on
standard output if there is none. -/
def Ending.HandsOver (ending : Ending) (surroundings : Surroundings) (destination : Option Path)
    (text : Text) : Prop :=
  match destination with
  | none => ending.stdout = text ++ [Text.lineFeed] ∧ ending.files = surroundings.files
  | some path => ending.stdout = [] ∧
      Files.readFile ending.files surroundings.directory path =
        .ok ((text ++ [Text.lineFeed]).flatMap Text.utf8Bytes)

/-! ## Delivery -/

theorem Task.run_of_isConversion {task : Task} {surroundings : Surroundings} {prepared : Prepared}
    {conversion : Conversion} (isConversion : task.job = .convert conversion)
    (isPrepared : task.prepare surroundings = .ok prepared) :
    task.run surroundings = deliver surroundings task conversion prepared := by
  rw [run_of_prepare isPrepared, isConversion]

/-- A log is handed over, wherever it goes, unless it cannot be written. -/
theorem exists_handsOver {task : Task} {surroundings : Surroundings} {prepared : Prepared}
    (conversion : Conversion)
    (writes : ∀ destination ∈ task.destination? surroundings.directory prepared.settings,
      (writeLog surroundings destination prepared.log).2 = none) :
    ∃ ending, deliver surroundings task conversion prepared = .ended ending ∧
      ending.exitCode = conversion.exitCode prepared.log ∧
      ending.HandsOver surroundings
        (task.destination? surroundings.directory prepared.settings) prepared.log.render := by
  cases destination : task.destination? surroundings.directory prepared.settings with
  | none =>
      rw [Task.deliver_of_nowhere destination]
      exact ⟨_, rfl, rfl, rfl, rfl⟩
  | some path =>
      have succeeded := writes path destination
      obtain ⟨files, _, ⟨failure, failed⟩ | ⟨after, wrote, delivered⟩⟩ :=
        writeLog_cases surroundings path prepared.log
      · rw [failed] at succeeded
        cases succeeded
      · rw [Task.deliver_of_writeLog destination delivered]
        exact ⟨_, rfl, rfl, rfl, Files.readFile_of_writeFile wrote⟩

/-! ## The task of a conversion -/

section Tasks

variable {reading : Reading} {task : Task}

/-- How a conversion is read: what the options choose, apart from the settings. -/
structure Task.IsRead (task : Task) (reading : Reading) (conversion : Conversion) : Prop where
  job : task.job = .convert conversion
  conversion : readConversion reading = .ok conversion
  projectRoot : task.projectRoot = reading.value? "project-root"
  baseFolder : task.baseFolder = reading.value? "base-folder"

theorem Task.exists_isRead {verbosity : Logging.Verbosity}
    (read : readTask verbosity (fun reading => (readConversion reading).map .convert) reading =
      .ok task) : ∃ conversion, task.IsRead reading conversion := by
  unfold readTask at read
  obtain ⟨input, _, read⟩ := bind_eq_ok_iff.1 read
  obtain ⟨job, isJob, returned⟩ := bind_eq_ok_iff.1 read
  obtain ⟨conversion, isConversion, wrapped⟩ := map_eq_ok_iff.1 isJob
  cases returned
  exact ⟨conversion, wrapped.symm, isConversion, rfl, rfl⟩

theorem readConversion_eq {conversion : Conversion}
    (read : readConversion reading = .ok conversion) :
    conversion = {
      output := reading.value? "output"
      ignoreSuppressed :=
        if reading.uses "ignore-suppressed" then some true
        else if reading.uses "include-suppressed" then some false
        else none
      toolName := (reading.value? "tool-name").filter fun name => !name.isEmpty
      toolVersion := (reading.value? "tool-version").filter fun version => !version.isEmpty
      noFingerprints := reading.uses "no-fingerprints"
      failOnError := reading.uses "fail-on-error" } := by
  unfold readConversion at read
  obtain ⟨_, _, returned⟩ := bind_eq_ok_iff.1 read
  exact (Except.ok.inj returned).symm

variable {conversion : Conversion} {surroundings : Surroundings} {settings : Config.Settings}

theorem Task.IsRead.project (isRead : task.IsRead reading conversion) (directory : Files.Location) :
    task.project directory = reading.project directory := by
  unfold Task.project Reading.project
  rw [isRead.projectRoot]
  cases reading.value? "project-root" <;> rfl

theorem Task.IsRead.base (isRead : task.IsRead reading conversion) (directory : Files.Location) :
    task.base directory (task.job.settings settings) = reading.base directory settings := by
  unfold Task.base Reading.base
  rw [isRead.baseFolder, isRead.job, isRead.project]
  show (match reading.value? "base-folder" with
    | some folder => _
    | none => match settings.baseFolder with
      | some folder => _
      | none => _) = _
  cases reading.value? "base-folder" with
  | some folder => rfl
  | none => cases settings.baseFolder <;> rfl

/-- The options of a task are those that the command line and the settings choose. -/
theorem Task.IsRead.options (isRead : task.IsRead reading conversion) :
    task.optionsFor surroundings (task.job.settings settings) =
      reading.options surroundings.directory settings := by
  have suppression : (conversion.applyTo settings).ignoreSuppressed =
      (reading.options surroundings.directory settings).ignoreSuppressed := by
    rw [readConversion_eq isRead.conversion]
    dsimp only [Conversion.applyTo, Reading.options]
    split
    · rfl
    · split <;> rfl
  have name : (conversion.applyTo settings).toolName =
      (reading.options surroundings.directory settings).toolName := by
    rw [readConversion_eq isRead.conversion]
    dsimp only [Conversion.applyTo, Reading.options]
    rcases reading.value? "tool-name" with _ | _ | _ <;> rfl
  have version : (conversion.applyTo settings).toolVersion =
      (reading.options surroundings.directory settings).toolVersion := by
    rw [readConversion_eq isRead.conversion]
    dsimp only [Conversion.applyTo, Reading.options]
    rcases reading.value? "tool-version" with _ | _ | _ <;> rfl
  have fingerprints : (conversion.applyTo settings).fingerprints =
      (reading.options surroundings.directory settings).fingerprints := by
    rw [readConversion_eq isRead.conversion]
    dsimp only [Conversion.applyTo, Reading.options]
    cases reading.uses "no-fingerprints" <;> simp
  have base : task.base surroundings.directory (task.job.settings settings) =
      reading.base surroundings.directory settings := isRead.base surroundings.directory
  unfold optionsFor
  rw [base, isRead.job]
  show (conversion.applyTo settings).options _ = _
  unfold Config.Settings.options
  rw [suppression, name, version, fingerprints]
  rfl

theorem Task.IsRead.destination? (isRead : task.IsRead reading conversion)
    (directory : Files.Location) :
    task.destination? directory (task.job.settings settings) =
      reading.destination? directory settings := by
  unfold Task.destination? Reading.destination?
  rw [isRead.job, isRead.project, readConversion_eq isRead.conversion]
  cases reading.value? "output" with
  | some file => rfl
  | none =>
    cases output : settings.output <;> simp [Job.settings, Conversion.applyTo, output]

theorem Task.IsRead.exitCode (isRead : task.IsRead reading conversion) (log : Sarif.Log) :
    conversion.exitCode log = reading.exitCode log := by
  rw [readConversion_eq isRead.conversion]
  unfold Conversion.exitCode Reading.exitCode
  simp

end Tasks

/-! ## Command lines -/

section CommandLines

variable {arguments : List Text} {reading : Reading} {task : Task} {surroundings : Surroundings}

theorem Converts.exists_isRead (converts : Converts arguments reading)
    (asks : (Asked.ofArguments arguments).request = .ok (.run task)) :
    ∃ conversion, task.IsRead reading conversion := by
  obtain ⟨program, rest, programRead, noImmediate, operands, commandRead⟩ := converts.command
  have isCommand : ∀ verbosity, command? verbosity (Text.ofString "convert") =
      some (askJob verbosity convertRules fun reading => (readConversion reading).map .convert) :=
    fun _ => rfl
  unfold Asked.ofArguments at asks
  simp only [programRead, noImmediate, operands, askCommand, isCommand] at asks
  cases compatible : refuseBoth program "verbose" "quiet" with
  | error error =>
      rw [compatible] at asks
      cases asks
  | ok =>
      rw [compatible] at asks
      simp only [askJob, commandRead, converts.noHelp] at asks
      obtain ⟨other, isRead, isTask⟩ := map_eq_ok_iff.1 asks
      cases isTask
      exact Task.exists_isRead isRead

theorem run_of_asks (asks : (Asked.ofArguments arguments).request = .ok (.run task))
    (proper : ∀ error, run arguments surroundings ≠ .usage error)
    (arePaths : ¬ (Asked.ofArguments arguments).NamesNoPath) :
    run arguments surroundings = task.run surroundings := by
  unfold run at proper ⊢
  rcases (Asked.ofArguments arguments).run_cases surroundings with
    ⟨_, proceeds⟩ | ⟨error, faulty⟩ | ⟨noPath, _⟩
  · rw [proceeds, asks]
    rfl
  · exact absurd faulty (proper error)
  · exact absurd noPath arePaths

/-- **A conversion hands over the log of its report.**  If the paths that options name can be some,
the settings load, the report can be read, its log can be made and written, and the file for it, if
there is one, can be written to, then the run ends and hands over the text of that log, which the
choices of the command line and of the settings determine. -/
theorem convert_hands_over_log {settings : Config.Settings} {text rendered : Text}
    {report : Lint.Report} {log : Sarif.Log} (converts : Converts arguments reading)
    (asks : (Asked.ofArguments arguments).request = .ok (.run task))
    (proper : ∀ error, run arguments surroundings ≠ .usage error)
    (arePaths : ¬ (Asked.ofArguments arguments).NamesNoPath)
    (loads : Config.load surroundings.files surroundings.directory
      (reading.project surroundings.directory) = .ok settings)
    (reads : task.reportText surroundings = .ok text)
    (isReport : Lint.readReport text = .ok report)
    (builds : Sarif.Log.ofReport (reading.options surroundings.directory settings) report = .ok log)
    (renders : log.write = .ok rendered)
    (writes : ∀ destination ∈ reading.destination? surroundings.directory settings,
      (writeLog surroundings destination log).2 = none) :
    ∃ ending, run arguments surroundings = .ended ending ∧
      ending.exitCode = reading.exitCode log ∧
      ending.HandsOver surroundings (reading.destination? surroundings.directory settings)
        rendered := by
  obtain ⟨conversion, isRead⟩ := converts.exists_isRead asks
  have isText : log.render = rendered := (Json.write_eq_ok_iff.1 renders).2
  have chosen : task.loadSettings surroundings = .ok (task.job.settings settings) := by
    rw [← isRead.project] at loads
    exact Task.loadSettings_eq_ok_iff.2 ⟨settings, loads, rfl⟩
  have isLog : Sarif.Log.ofReport (task.optionsFor surroundings (task.job.settings settings))
      report = .ok log := by
    rw [isRead.options]
    exact builds
  have isPrepared := Task.prepare_of_reads ⟨chosen, reads⟩ isReport isLog
  rw [run_of_asks asks proper arePaths, Task.run_of_isConversion isRead.job isPrepared]
  rw [← isRead.destination?] at writes ⊢
  rw [← isRead.exitCode, ← isText]
  apply exists_handsOver
  exact writes

end CommandLines

/-! ## A project with settings -/

/-- Take suppressed messages in, and tell of a version. -/
def chosenArguments : List Text :=
  ["convert", "-", "--include-suppressed", "--tool-version", "2.0"]

def chosenReading : Reading where
  occurrences := [{ name := "include-suppressed" },
    { name := "tool-version", value := some (Text.ofString "2.0") }]
  operands := ["-"]

def chosenTask : Task where
  job := .convert {
    ignoreSuppressed := some false
    toolVersion := some (Text.ofString "2.0") }
  input := "-"

/-- The project has another mind on suppressed messages, and asks for a file. -/
def chosenFile : Text := Text.ofString
  "[tool.lintsarif]\nignore-suppressed = true\ntool-name = \"Linter\"\nfingerprints = false\noutput = \"log.sarif\"\n"

def chosenSettings : Config.Settings where
  ignoreSuppressed := true
  toolName := "Linter"
  fingerprints := false
  output := some (Text.ofString "log.sarif")

def chosenSurroundings : Surroundings where
  files := [([Text.ofString "project"], .directory),
    ([Text.ofString "project", Config.fileName], .file (chosenFile.flatMap Text.utf8Bytes))]
  directory := [Text.ofString "project"]
  input :=
    "[\x7b\"filePath\": \"a.js\", \"suppressedMessages\": [\x7b\"message\": \"unused\", \"ruleId\": \"no-unused\"\x7d]\x7d]"

def chosenReport : Lint.Report where
  results := [{
    path := "a.js"
    suppressedMessages := [{ text := "unused", ruleId := some (Text.ofString "no-unused") }] }]

def chosenLog : Sarif.Log where
  driver := {
    name := "Linter"
    version := some (Text.ofString "2.0")
    informationUri := "https://eslint.org" }
  artifacts := [⟨"a.js"⟩]
  results := [{
    finding := {
      level := .warning
      text := "unused"
      location := { uri := "a.js", index := 0 } }
    ruleId := "no-unused"
    suppressions := some [] }]

theorem convert_hands_over_log_sample :
    Converts chosenArguments chosenReading ∧
      Config.load chosenSurroundings.files chosenSurroundings.directory
        (chosenReading.project chosenSurroundings.directory) = .ok chosenSettings ∧
      Sarif.Log.ofReport (chosenReading.options chosenSurroundings.directory chosenSettings)
        chosenReport = .ok chosenLog ∧
      ∃ ending, run chosenArguments chosenSurroundings = .ended ending ∧ ending.exitCode = 0 ∧
        ending.stdout = [] ∧
        Files.readFile ending.files [Text.ofString "project"]
            ⟨.slash, [Text.ofString "project", Text.ofString "log.sarif"]⟩ =
          .ok ((chosenLog.render ++ [Text.lineFeed]).flatMap Text.utf8Bytes) := by
  have converts : Converts chosenArguments chosenReading :=
    { command := ⟨_, _, rfl, rfl, rfl, rfl⟩, noHelp := rfl }
  have asks : (Asked.ofArguments chosenArguments).request = .ok (.run chosenTask) := rfl
  have arePaths : ¬ (Asked.ofArguments chosenArguments).NamesNoPath := by
    rintro ⟨option, isPath, _⟩
    cases isPath
  have loads : Config.load chosenSurroundings.files chosenSurroundings.directory
      (chosenReading.project chosenSurroundings.directory) = .ok chosenSettings :=
    eq_ok_of_toOption (by decide +kernel)
  have reads : chosenTask.reportText chosenSurroundings = .ok chosenSurroundings.input :=
    eq_ok_of_toOption (by decide +kernel)
  have isReport : Lint.readReport chosenSurroundings.input = .ok chosenReport :=
    eq_ok_of_toOption (by decide +kernel)
  have builds : Sarif.Log.ofReport (chosenReading.options chosenSurroundings.directory
      chosenSettings) chosenReport = .ok chosenLog := eq_ok_of_toOption (by decide +kernel)
  have renders : chosenLog.write = .ok chosenLog.render :=
    Json.write_eq_ok_iff.2 ⟨by decide +kernel, rfl⟩
  have proper : ∀ error, run chosenArguments chosenSurroundings ≠ .usage error := by
    have isRun : run chosenArguments chosenSurroundings = chosenTask.run chosenSurroundings := rfl
    intro error faulty
    have regular : Task.IsRegular (chosenTask.run chosenSurroundings) := Task.isRegular_run
    rw [← isRun, faulty] at regular
    exact regular
  have writes : ∀ destination ∈ chosenReading.destination? chosenSurroundings.directory
      chosenSettings, (writeLog chosenSurroundings destination chosenLog).2 = none := by
    intro destination isDestination
    cases isDestination
    rfl
  obtain ⟨ending, ended, isCode, isEmpty, isRead⟩ :=
    convert_hands_over_log converts asks proper arePaths loads reads isReport builds renders writes
  exact ⟨converts, loads, builds, ending, ended, isCode, isEmpty, isRead⟩

end Findings.Command
