import Findings.Command.Aftermath
import Findings.Proofs.Command.Failure
import Findings.Proofs.Files.Writing

/-!
Contract: no half-written results.

Owns: what a run leaves of the files, whatever is asked for and wherever the run ends
(`leavesWholeFiles`).  A run that does not finish makes directories at most, and a conversion that
does leaves one whole file or none.

Every claim on a whole run is read off two case distinctions: a command line makes a request or
leaves everything alone, and a task that has a log writes it, fails to, or has nowhere to write.
-/

set_option autoImplicit false

namespace Findings.Command

/-- A run comes to its end, and not with the exit code of a failure. -/
def Outcome.IsFinished : Outcome → Prop
  | .usage _ | .crash _ => False
  | .ended ending => ending.exitCode ≠ 2

/-- The ending of a run, if it has one, holds this tree. -/
def Outcome.Tells (files : Files.Tree) : Outcome → Prop
  | .usage _ | .crash _ => True
  | .ended ending => ending.files = files

/-- A log as the bytes of a file. -/
def bytesOf (log : Sarif.Log) : List UInt8 := (written log).flatMap Text.utf8Bytes

/-! ## Writing a log -/

section Writing

variable (surroundings : Surroundings) (destination : Path) (log : Sarif.Log)

/-- Directories are made at most, and then the file is written or the log is not. -/
theorem writeLog_cases :
    ∃ files, surroundings.files.GainsDirectories files ∧
      ((∃ failure, writeLog surroundings destination log = (files, some failure)) ∨
        ∃ after,
          Files.writeFile files surroundings.directory destination (bytesOf log) = .ok after ∧
          writeLog surroundings destination log = (after, none)) := by
  have gains := Files.gainsDirectories_makeDirectories surroundings.files surroundings.directory
    destination.parent
  unfold writeLog
  cases made : Files.makeDirectories surroundings.files surroundings.directory
      destination.parent with
  | mk files failed =>
      rw [made] at gains
      refine ⟨files, gains, ?_⟩
      cases failed with
      | some failure => exact .inl ⟨failure, rfl⟩
      | none =>
          dsimp only
          split
          · exact .inl ⟨_, rfl⟩
          · rename_i after wrote
            exact .inr ⟨after, wrote, rfl⟩

variable {surroundings destination log} {after : Files.Tree}

theorem gainsDirectories_of_writeLog {failure : Files.Failure}
    (failed : writeLog surroundings destination log = (after, some failure)) :
    surroundings.files.GainsDirectories after := by
  obtain ⟨files, gains, ⟨_, unwritten⟩ | ⟨_, _, wrote⟩⟩ :=
    writeLog_cases surroundings destination log
  · rw [unwritten] at failed
    cases failed
    exact gains
  · rw [wrote] at failed
    cases failed

/-- **A written log.**  The path leads to a file of the whole log, and every other file is as it
was. -/
theorem exists_of_writeLog (succeeded : writeLog surroundings destination log = (after, none)) :
    ∃ location, Files.locate after surroundings.directory destination = .ok location ∧
      surroundings.files.Replaces after location (bytesOf log) := by
  obtain ⟨files, gains, ⟨_, unwritten⟩ | ⟨_, written, wrote⟩⟩ :=
    writeLog_cases surroundings destination log
  · rw [unwritten] at succeeded
    cases succeeded
  · rw [wrote] at succeeded
    cases succeeded
    obtain ⟨location, leads, replaces⟩ := Files.exists_of_writeFile written
    exact ⟨location, leads, .of_gains gains replaces⟩

end Writing

/-! ## Runs that do not finish -/

theorem not_isFinished_complain (files : Files.Tree) (logged message : Text) :
    ¬ (complain files logged message).IsFinished := by
  unfold complain
  split
  · exact id
  · exact fun differs => differs rfl

theorem tells_complain (files : Files.Tree) (logged message : Text) :
    (complain files logged message).Tells files := by
  unfold complain
  split
  · trivial
  · rfl

theorem not_isFinished_halt (halt : Halt) (files : Files.Tree) :
    ¬ (halt.outcome files).IsFinished := by
  cases halt with
  | usage error => exact id
  | crash cause => exact id
  | complaint message => exact not_isFinished_complain files [] message

theorem tells_halt (halt : Halt) (files : Files.Tree) : (halt.outcome files).Tells files := by
  cases halt with
  | usage error => trivial
  | crash cause => trivial
  | complaint message => exact tells_complain files [] message

/-! ## Tasks -/

namespace Task

variable {task : Task} {surroundings : Surroundings} {prepared : Prepared}

theorem loadSettings_eq_ok_iff {settings : Config.Settings} :
    task.loadSettings surroundings = .ok settings ↔
      ∃ loaded, Config.load surroundings.files surroundings.directory
        (task.project surroundings.directory) = .ok loaded ∧
        task.job.settings loaded = settings := by
  unfold loadSettings
  simp only [bind_eq_ok_iff, mapError_eq_ok_iff]
  constructor
  · rintro ⟨loaded, isLoaded, returned⟩
    exact ⟨loaded, isLoaded, Except.ok.inj returned⟩
  · rintro ⟨loaded, isLoaded, isSettings⟩
    exact ⟨loaded, isLoaded, congrArg Except.ok isSettings⟩

/-- What preparation finds. -/
theorem exists_of_prepare (isPrepared : task.prepare surroundings = .ok prepared) :
    ∃ text, task.Reads surroundings prepared.settings text ∧
      Lint.readReport text = .ok prepared.report ∧
      Sarif.Log.ofReport (task.optionsFor surroundings prepared.settings) prepared.report =
        .ok prepared.log := by
  unfold prepare at isPrepared
  simp only [bind_eq_ok_iff, mapError_eq_ok_iff] at isPrepared
  obtain ⟨settings, loaded, text, read, report, isReport, log, isLog, returned⟩ := isPrepared
  cases returned
  exact ⟨text, ⟨loaded, read⟩, isReport, isLog⟩

theorem prepare_of_reads {settings : Config.Settings} {text : Text} {report : Lint.Report}
    {log : Sarif.Log} (reads : task.Reads surroundings settings text)
    (isReport : Lint.readReport text = .ok report)
    (isLog : Sarif.Log.ofReport (task.optionsFor surroundings settings) report = .ok log) :
    task.prepare surroundings = .ok {
      settings
      report
      log
      records := readingRecords (Lint.skippedIn text) report
        ++ buildingRecords (task.optionsFor surroundings settings) report log } := by
  unfold prepare
  simp only [bind_eq_ok_iff, mapError_eq_ok_iff]
  exact ⟨settings, reads.settings, text, reads.text, report, isReport, log, isLog, rfl⟩

theorem deliver_of_nowhere {conversion : Conversion}
    (nowhere : task.destination? surroundings.directory prepared.settings = none) :
    deliver surroundings task conversion prepared = .ended {
      exitCode := conversion.exitCode prepared.log
      stdout := written prepared.log
      stderr := onStderr (Logging.written task.verbosity prepared.records)
      files := surroundings.files } := by
  simp only [deliver, nowhere]

theorem deliver_of_writeLog {conversion : Conversion} {destination : Path} {after : Files.Tree}
    (somewhere : task.destination? surroundings.directory prepared.settings = some destination)
    (succeeded : writeLog surroundings destination prepared.log = (after, none)) :
    deliver surroundings task conversion prepared = .ended {
      exitCode := conversion.exitCode prepared.log
      stderr := onStderr (Logging.written task.verbosity prepared.records
        ++ Logging.written task.verbosity [writingRecord prepared.log destination])
      files := after } := by
  simp only [deliver, somewhere, succeeded]

/-- A log that cannot be written ends the run with a message or a fault. -/
theorem deliver_of_failure {conversion : Conversion} {destination : Path} {after : Files.Tree}
    {failure : Files.Failure}
    (somewhere : task.destination? surroundings.directory prepared.settings = some destination)
    (failed : writeLog surroundings destination prepared.log = (after, some failure)) :
    ¬ (deliver surroundings task conversion prepared).IsFinished ∧
      (deliver surroundings task conversion prepared).Tells after := by
  cases failure with
  | refused fault =>
      simp only [deliver, somewhere, failed]
      exact ⟨not_isFinished_complain _ _ _, tells_complain _ _ _⟩
  | nullCharacter =>
      simp only [deliver, somewhere, failed]
      exact ⟨id, trivial⟩
  | unencodable fault =>
      simp only [deliver, somewhere, failed]
      exact ⟨id, trivial⟩

theorem filesAfter_of_prepare (isPrepared : task.prepare surroundings = .ok prepared) :
    task.filesAfter surroundings =
      match task.destination? surroundings.directory prepared.settings with
      | none => surroundings.files
      | some destination => (writeLog surroundings destination prepared.log).1 := by
  unfold filesAfter
  cases isDestination : task.destination? surroundings.directory prepared.settings with
  | none => simp only [isPrepared, isDestination]
  | some destination => simp only [isPrepared, isDestination]

/-- How a task leaves a tree: it ends without a log, or prints one, or fails to write it, or writes
it. -/
inductive Leaves (task : Task) (surroundings : Surroundings) : Files.Tree → Outcome → Prop where
  | unprepared {outcome : Outcome}
      (unfinished : ¬ outcome.IsFinished)
      (tells : outcome.Tells surroundings.files) :
      Leaves task surroundings surroundings.files outcome
  | summarized {outcome : Outcome} (isSummary : task.job = .summary)
      (tells : outcome.Tells surroundings.files) :
      Leaves task surroundings surroundings.files outcome
  | printed {prepared : Prepared} {conversion : Conversion} {stderr : Text}
      (isConversion : task.job = .convert conversion)
      (isPrepared : task.prepare surroundings = .ok prepared)
      (nowhere : task.destination? surroundings.directory prepared.settings = none) :
      Leaves task surroundings surroundings.files (.ended {
        exitCode := conversion.exitCode prepared.log
        stdout := written prepared.log
        stderr := stderr
        files := surroundings.files })
  | unwritten {prepared : Prepared} {destination : Path} {outcome : Outcome} {after : Files.Tree}
      (isPrepared : task.prepare surroundings = .ok prepared)
      (somewhere : task.destination? surroundings.directory prepared.settings = some destination)
      (gains : surroundings.files.GainsDirectories after)
      (unfinished : ¬ outcome.IsFinished)
      (tells : outcome.Tells after) :
      Leaves task surroundings after outcome
  | wrote {prepared : Prepared} {conversion : Conversion} {destination : Path} {stderr : Text}
      {after : Files.Tree}
      (isConversion : task.job = .convert conversion)
      (isPrepared : task.prepare surroundings = .ok prepared)
      (somewhere : task.destination? surroundings.directory prepared.settings = some destination)
      (succeeded : writeLog surroundings destination prepared.log = (after, none)) :
      Leaves task surroundings after (.ended {
        exitCode := conversion.exitCode prepared.log
        stderr := stderr
        files := after })

theorem tells_summarize (prepared : Prepared) :
    (summarize surroundings task prepared).Tells surroundings.files := by
  unfold summarize
  split
  · trivial
  · split
    · trivial
    · rfl

theorem leaves_run : task.Leaves surroundings (task.filesAfter surroundings)
    (task.run surroundings) := by
  cases isPrepared : task.prepare surroundings with
  | error halt =>
      have untouched : task.filesAfter surroundings = surroundings.files := by
        unfold filesAfter
        rw [isPrepared]
      have isOutcome : task.run surroundings = halt.outcome surroundings.files := by
        unfold run
        rw [isPrepared]
      rw [untouched, isOutcome]
      exact .unprepared (not_isFinished_halt halt _) (tells_halt halt _)
  | ok prepared =>
      rw [filesAfter_of_prepare isPrepared, run_of_prepare isPrepared]
      cases isJob : task.job with
      | summary =>
          have nowhere : task.destination? surroundings.directory prepared.settings = none := by
            unfold destination?
            rw [isJob]
          rw [nowhere]
          exact .summarized isJob (tells_summarize prepared)
      | convert conversion =>
          dsimp only
          cases destination : task.destination? surroundings.directory prepared.settings with
          | none =>
              rw [deliver_of_nowhere destination]
              exact .printed isJob isPrepared destination
          | some place =>
              dsimp only
              cases delivered : writeLog surroundings place prepared.log with
              | mk after failed =>
                  cases failed with
                  | none =>
                      rw [deliver_of_writeLog destination delivered]
                      exact .wrote isJob isPrepared destination delivered
                  | some failure =>
                      obtain ⟨unfinished, tells⟩ :=
                        @deliver_of_failure _ _ _ conversion _ _ _ destination delivered
                      exact .unwritten isPrepared destination
                        (gainsDirectories_of_writeLog delivered) unfinished tells

/-! ## What is left -/

section Leaves

variable {after : Files.Tree} {outcome : Outcome}

theorem exitCode_le_one (conversion : Conversion) (log : Sarif.Log) :
    conversion.exitCode log ≤ 1 := by
  unfold Conversion.exitCode
  split
  · exact Nat.le_refl 1
  · exact Nat.zero_le 1

theorem isFinished_of_exitCode {conversion : Conversion} {log : Sarif.Log} {ending : Ending}
    (isCode : ending.exitCode = conversion.exitCode log) : (Outcome.ended ending).IsFinished := by
  have small := exitCode_le_one conversion log
  show ending.exitCode ≠ 2
  omega

theorem Leaves.tells (leaves : task.Leaves surroundings after outcome) : outcome.Tells after := by
  cases leaves with
  | unprepared _ tells => exact tells
  | summarized _ tells => exact tells
  | printed => rfl
  | unwritten _ _ _ _ tells => exact tells
  | wrote => rfl

theorem Leaves.gainsDirectories (leaves : task.Leaves surroundings after outcome)
    (unfinished : ¬ outcome.IsFinished) : surroundings.files.GainsDirectories after := by
  cases leaves with
  | unprepared => exact .refl _
  | summarized => exact .refl _
  | printed => exact .refl _
  | unwritten _ _ gains => exact gains
  | wrote => exact absurd (isFinished_of_exitCode rfl) unfinished

/-- A task has a file to write to: the command line names one, or the settings do. -/
def HasDestination (task : Task) (surroundings : Surroundings) : Prop :=
  ∃ conversion, task.job = .convert conversion ∧
    (conversion.output ≠ none ∨
      ∃ settings, Config.load surroundings.files surroundings.directory
        (task.project surroundings.directory) = .ok settings ∧ settings.output ≠ none)

theorem hasDestination_of_destination {destination : Path}
    (isPrepared : task.prepare surroundings = .ok prepared)
    (somewhere : task.destination? surroundings.directory prepared.settings = some destination) :
    task.HasDestination surroundings := by
  obtain ⟨conversion, isConversion⟩ := exists_convert_of_destination somewhere
  refine ⟨conversion, isConversion, ?_⟩
  unfold destination? at somewhere
  rw [isConversion] at somewhere
  cases output : conversion.output with
  | some file => exact .inl (by simp)
  | none =>
      obtain ⟨_, reads, _⟩ := exists_of_prepare isPrepared
      obtain ⟨settings, loaded, chosen⟩ := loadSettings_eq_ok_iff.1 reads.settings
      refine .inr ⟨settings, loaded, fun noOutput => ?_⟩
      have sameOutput : prepared.settings.output = settings.output := by
        rw [← chosen, isConversion]
        rfl
      simp only [output, sameOutput, noOutput, Option.map_none, reduceCtorEq] at somewhere

theorem Leaves.eq_of_not_hasDestination (leaves : task.Leaves surroundings after outcome)
    (nowhere : ¬ task.HasDestination surroundings) : after = surroundings.files := by
  cases leaves with
  | unprepared => rfl
  | summarized => rfl
  | printed => rfl
  | unwritten isPrepared somewhere =>
      exact absurd (hasDestination_of_destination isPrepared somewhere) nowhere
  | wrote _ isPrepared somewhere =>
      exact absurd (hasDestination_of_destination isPrepared somewhere) nowhere

/-- The log that a task makes of its report. -/
def Makes (task : Task) (surroundings : Surroundings) (settings : Config.Settings)
    (log : Sarif.Log) : Prop :=
  ∃ text report, task.Reads surroundings settings text ∧ Lint.readReport text = .ok report ∧
    Sarif.Log.ofReport (task.optionsFor surroundings settings) report = .ok log

/-- A tree is the one before a task but for the file that the task writes its log to, which holds
the whole log. -/
def Delivers (task : Task) (surroundings : Surroundings) (after : Files.Tree) : Prop :=
  ∃ settings log, task.Makes surroundings settings log ∧
    match task.destination? surroundings.directory settings with
    | none => after = surroundings.files
    | some destination =>
        ∃ location, Files.locate after surroundings.directory destination = .ok location ∧
          surroundings.files.Replaces after location (bytesOf log)

theorem Leaves.delivers (leaves : task.Leaves surroundings after outcome)
    (isConversion : task.job ≠ .summary) (finished : outcome.IsFinished) :
    task.Delivers surroundings after := by
  cases leaves with
  | unprepared unfinished => exact absurd finished unfinished
  | summarized isSummary => exact absurd isSummary isConversion
  | @printed prepared _ _ _ isPrepared nowhere =>
      obtain ⟨text, reads, isReport, isLog⟩ := exists_of_prepare isPrepared
      refine ⟨prepared.settings, prepared.log, ⟨text, _, reads, isReport, isLog⟩, ?_⟩
      rw [nowhere]
  | unwritten _ _ _ unfinished => exact absurd finished unfinished
  | @wrote prepared _ _ _ _ _ isPrepared somewhere succeeded =>
      obtain ⟨text, reads, isReport, isLog⟩ := exists_of_prepare isPrepared
      refine ⟨prepared.settings, prepared.log, ⟨text, _, reads, isReport, isLog⟩, ?_⟩
      rw [somewhere]
      exact exists_of_writeLog succeeded

end Leaves

end Task

/-! ## Command lines -/

/-- A command line has a task, or its run leaves everything alone; and it has no task if it finishes
all the same. -/
theorem Asked.leaves_cases (asked : Asked) (surroundings : Surroundings) :
    (∃ task, asked.request = .ok (.run task) ∧ asked.run surroundings = task.run surroundings ∧
      asked.filesAfter surroundings = task.filesAfter surroundings) ∨
    (asked.run surroundings).Tells surroundings.files ∧
      asked.filesAfter surroundings = surroundings.files ∧
      ((asked.run surroundings).IsFinished → ∀ task, asked.request ≠ .ok (.run task)) := by
  unfold Asked.run Asked.filesAfter
  cases asked.paths.forM fun option => checkValue surroundings option.1 option.2 with
  | error halt =>
      exact .inr
        ⟨tells_halt halt _, rfl, fun finished => absurd finished (not_isFinished_halt halt _)⟩
  | ok =>
      cases asked.request with
      | error error => exact .inr ⟨trivial, rfl, fun finished => finished.elim⟩
      | ok request =>
          cases request with
          | version => exact .inr ⟨rfl, rfl, fun _ task => by simp⟩
          | help => exact .inr ⟨rfl, rfl, fun _ task => by simp⟩
          | run task => exact .inl ⟨task, rfl, rfl, rfl⟩

/-- What is promised of the files after a run. -/
structure LeavesWholeFiles (arguments : List Text) (surroundings : Surroundings) : Prop where
  tells : (run arguments surroundings).Tells (filesAfter arguments surroundings)
  /-- A run that does not finish makes directories at most. -/
  unfinished : ¬ (run arguments surroundings).IsFinished →
    surroundings.files.GainsDirectories (filesAfter arguments surroundings)
  /-- A run that does not finish leaves the same files with the same contents. -/
  contents : ¬ (run arguments surroundings).IsFinished → ∀ location,
    (filesAfter arguments surroundings).content? location = surroundings.files.content? location
  /-- Without a file to write to, nothing is changed. -/
  undirected : (∀ task, (Asked.ofArguments arguments).request = .ok (.run task) →
      ¬ task.HasDestination surroundings) →
    filesAfter arguments surroundings = surroundings.files
  /-- A conversion that finishes leaves its whole log in its file and every other file as it was. -/
  converted : ∀ task ending, (Asked.ofArguments arguments).request = .ok (.run task) →
    task.job ≠ .summary → run arguments surroundings = .ended ending →
    ending.exitCode = 0 ∨ ending.exitCode = 1 →
    task.Delivers surroundings (filesAfter arguments surroundings)

/-- **No half-written results.** -/
theorem leavesWholeFiles (arguments : List Text) (surroundings : Surroundings) :
    LeavesWholeFiles arguments surroundings := by
  have finishes : ∀ ending, run arguments surroundings = .ended ending →
      ending.exitCode = 0 ∨ ending.exitCode = 1 → (run arguments surroundings).IsFinished := by
    intro ending ended isCode
    rw [ended]
    show ending.exitCode ≠ 2
    omega
  rcases (Asked.ofArguments arguments).leaves_cases surroundings with
    ⟨task, asks, isRun, isAfter⟩ | ⟨tells, untouched, noTask⟩
  · have leaves : task.Leaves surroundings (filesAfter arguments surroundings)
        (run arguments surroundings) := by
      unfold filesAfter run
      rw [isRun, isAfter]
      exact Task.leaves_run
    refine ⟨leaves.tells, leaves.gainsDirectories,
      fun unfinished => (leaves.gainsDirectories unfinished).content?,
      fun nowhere => ?undirected, ?converted⟩
    case undirected => exact leaves.eq_of_not_hasDestination (nowhere task asks)
    case converted =>
      intro other ending asksToo isConversion ended isCode
      rw [asks] at asksToo
      cases asksToo
      exact leaves.delivers isConversion (finishes ending ended isCode)
  · replace tells : (run arguments surroundings).Tells surroundings.files := tells
    replace untouched : filesAfter arguments surroundings = surroundings.files := untouched
    refine ⟨untouched ▸ tells, fun _ => untouched ▸ .refl _, fun _ _ => untouched ▸ rfl,
      fun _ => untouched, ?converted⟩
    case converted =>
      intro task ending asks _ ended isCode
      exact absurd asks (noTask (finishes ending ended isCode) task)

/-! ## A conversion of a report with an error -/

/-- Convert standard input into a folder that is not there. -/
def brokenArguments : List Text :=
  ["convert", "-", "--output", "out/log.sarif", "--no-fingerprints", "--fail-on-error"]

def brokenConversion : Conversion where
  output := some "out/log.sarif"
  noFingerprints := true
  failOnError := true

def brokenTask : Task where
  job := .convert brokenConversion
  input := "-"

def brokenSurroundings : Surroundings where
  files := [([Text.ofString "project"], .directory)]
  directory := [Text.ofString "project"]
  input :=
    "[\x7b\"filePath\": \"a.js\", \"messages\": [\x7b\"message\": \"broken\", \"severity\": 2\x7d]\x7d]"

def brokenReport : Lint.Report where
  results := [{ path := "a.js", messages := [{ text := "broken", severity := 2 }] }]

/-- The log tells of the error as a notification of the tool. -/
def brokenLog : Sarif.Log where
  driver := { name := "ESLint", informationUri := "https://eslint.org" }
  artifacts := [⟨"a.js"⟩]
  notifications := [{
    level := .error
    text := "broken"
    location := { uri := "a.js", index := 0 } }]

/-- The run reports the error with its exit code, and has delivered its log all the same. -/
theorem leavesWholeFiles_sample :
    (Asked.ofArguments brokenArguments).request = .ok (.run brokenTask) ∧
      ∃ ending, run brokenArguments brokenSurroundings = .ended ending ∧ ending.exitCode = 1 ∧
        brokenTask.Delivers brokenSurroundings ending.files := by
  have asks : (Asked.ofArguments brokenArguments).request = .ok (.run brokenTask) := rfl
  have reads : brokenTask.Reads brokenSurroundings { fingerprints := false }
      brokenSurroundings.input := ⟨rfl, eq_ok_of_toOption (by decide +kernel)⟩
  have isReport : Lint.readReport brokenSurroundings.input = .ok brokenReport :=
    eq_ok_of_toOption (by decide +kernel)
  have isLog : Sarif.Log.ofReport (brokenTask.optionsFor brokenSurroundings
      { fingerprints := false }) brokenReport = .ok brokenLog :=
    eq_ok_of_toOption (by decide +kernel)
  have isPrepared := Task.prepare_of_reads reads isReport isLog
  obtain ⟨ending, ended, isCode⟩ : ∃ ending,
      run brokenArguments brokenSurroundings = .ended ending ∧ ending.exitCode = 1 := by
    have isRun : run brokenArguments brokenSurroundings =
        deliver brokenSurroundings brokenTask brokenConversion _ := Task.run_of_prepare isPrepared
    rw [isRun]
    exact ⟨_, rfl, rfl⟩
  have holds := leavesWholeFiles brokenArguments brokenSurroundings
  have tells := holds.tells
  rw [ended] at tells
  refine ⟨asks, ending, ended, isCode, ?_⟩
  rw [show ending.files = _ from tells]
  exact holds.converted brokenTask ending asks nofun ended (.inr isCode)

end Findings.Command
