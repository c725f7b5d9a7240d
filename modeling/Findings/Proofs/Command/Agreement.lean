import Findings.Proofs.Command.Conversion
import Findings.Proofs.Command.Verbosity
import Findings.Proofs.Lint.Language
import Findings.Proofs.Sarif.Success
import Findings.Proofs.Summary.LastLines

/-!
Contract: the exit code of a conversion and the summary of the same report.

Owns:
- `Summarizes`, how a summary is asked for, and which conversions choose nothing but an exit code
  for failures;
- what such a conversion and a summary of the same report in the same folders have in common: they
  accept the same paths, find the same settings and make the same log;
- `exit_code_agrees_with_summary`: the exit code is that of a failure if and only if the summary
  shows one, and if and only if the report holds one.

Does not own: which messages are failures (`Findings.Proofs.Sarif.Success`).
-/

set_option autoImplicit false

namespace Findings.Command

open Summary (View)
open Terminal (lineBeforeLast?)

/-! ## Two command lines on one report -/

/-- Arguments ask for a summary whose options and operands are read like this. -/
structure Summarizes (arguments : List Text) (reading : Reading) : Prop where
  command : ∃ program rest, Reading.ofArguments programRules false arguments = .ok program ∧
    immediate? program = none ∧ refuseBoth program "verbose" "quiet" = .ok () ∧
    program.operands = Text.ofString "summary" :: rest ∧
    Reading.ofArguments folderRules true rest = .ok reading
  noHelp : reading.uses "help" = false

namespace Reading

/-- The options of a conversion that chooses an exit code for failures and nothing else. -/
def exitCodeOptions : List Text := ["fail-on-error", "project-root", "base-folder"]

/-- A conversion has an exit code for failures, and apart from folders nothing else is chosen. -/
structure ChoosesExitCode (reading : Reading) : Prop where
  exitCode : reading.uses "fail-on-error" = true
  nothingElse : ∀ name, reading.uses name = true → name ∈ exitCodeOptions

/-- The same report and the same folders are named. -/
structure NamesSame (reading other : Reading) : Prop where
  input : reading.operands = other.operands
  projectRoot : reading.value? "project-root" = other.value? "project-root"
  baseFolder : reading.value? "base-folder" = other.value? "base-folder"

end Reading

section Readings

variable {arguments : List Text} {reading : Reading}

/-- What is asked for by the arguments of a job, once they are read. -/
def askedFor (verbosity : Logging.Verbosity) (rules : List OptionRule)
    (job : Reading → Except UsageError Job) (reading : Reading) : Asked where
  paths := reading.pathValues rules
  request := (readTask verbosity job reading).map .run

theorem askJob_of_read {verbosity : Logging.Verbosity} {rules : List OptionRule}
    {job : Reading → Except UsageError Job}
    (read : Reading.ofArguments rules true arguments = .ok reading)
    (noHelp : reading.uses "help" = false) :
    askJob verbosity rules job arguments = askedFor verbosity rules job reading := by
  unfold askJob
  rw [read]
  dsimp only
  rw [noHelp]
  rfl

theorem Converts.asked (converts : Converts arguments reading) :
    (∃ error, Asked.ofArguments arguments = .refused error) ∨
    ∃ verbosity, Asked.ofArguments arguments = askedFor verbosity convertRules
      (fun reading => (readConversion reading).map .convert) reading := by
  obtain ⟨program, rest, programRead, noImmediate, operands, commandRead⟩ := converts.command
  have isCommand : ∀ verbosity, command? verbosity (Text.ofString "convert") =
      some (askJob verbosity convertRules fun reading => (readConversion reading).map .convert) :=
    fun _ => rfl
  unfold Asked.ofArguments
  simp only [programRead, noImmediate, operands, askCommand, isCommand]
  cases refuseBoth program "verbose" "quiet" with
  | error error => exact .inl ⟨error, rfl⟩
  | ok => exact .inr ⟨_, askJob_of_read commandRead converts.noHelp⟩

theorem Summarizes.asked (summarizes : Summarizes arguments reading) :
    ∃ verbosity, Asked.ofArguments arguments =
      askedFor verbosity folderRules (fun _ => .ok .summary) reading := by
  obtain ⟨program, rest, programRead, noImmediate, compatible, operands, commandRead⟩ :=
    summarizes.command
  have isCommand : ∀ verbosity, command? verbosity (Text.ofString "summary") =
      some (askJob verbosity folderRules fun _ => .ok .summary) := fun _ => rfl
  unfold Asked.ofArguments
  simp only [programRead, noImmediate, operands, askCommand, isCommand, compatible]
  exact ⟨_, askJob_of_read commandRead summarizes.noHelp⟩

theorem Reading.ChoosesExitCode.unused (chooses : reading.ChoosesExitCode) (name : Text)
    (other : name ∉ exitCodeOptions) : reading.uses name = false := by
  cases used : reading.uses name with
  | false => rfl
  | true => exact absurd (chooses.nothingElse name used) other

/-- Nothing is chosen but the exit code. -/
theorem Reading.ChoosesExitCode.conversion {conversion : Conversion}
    (chooses : reading.ChoosesExitCode) (read : readConversion reading = .ok conversion) :
    conversion = { failOnError := true } := by
  have noValue : ∀ name, name ∉ exitCodeOptions → reading.value? name = none :=
    fun name other => value?_of_unused (chooses.unused name other)
  rw [readConversion_eq read, noValue "output" (by decide), noValue "tool-name" (by decide),
    noValue "tool-version" (by decide), chooses.unused "ignore-suppressed" (by decide),
    chooses.unused "include-suppressed" (by decide), chooses.unused "no-fingerprints" (by decide),
    chooses.exitCode]
  rfl

end Readings

/-! ## Tasks -/

/-- The summary of the report of a task. -/
def Task.asSummary (verbosity : Logging.Verbosity) (task : Task) : Task :=
  { task with job := .summary, verbosity := verbosity }

/-- Where the same report and the same folders are named, the task is a summary of the same
report. -/
theorem Reading.NamesSame.readTask {chosen shared : Reading} {task : Task}
    {verbosity : Logging.Verbosity} {job : Reading → Except UsageError Job}
    (same : chosen.NamesSame shared) (other : Logging.Verbosity)
    (isTask : Command.readTask verbosity job chosen = .ok task) :
    Command.readTask other (fun _ => .ok .summary) shared = .ok (task.asSummary other) := by
  have sameInput : readInput shared = readInput chosen := by
    unfold readInput
    rw [same.input]
  unfold Command.readTask at isTask ⊢
  obtain ⟨input, isInput, isTask⟩ := bind_eq_ok_iff.1 isTask
  obtain ⟨_, -, returned⟩ := bind_eq_ok_iff.1 isTask
  cases returned
  rw [sameInput, isInput, ← same.projectRoot, ← same.baseFolder]
  rfl

/-! ## Paths -/

theorem Reading.uses_of_value? {reading : Reading} {name value : Text}
    (isValue : reading.value? name = some value) : reading.uses name = true := by
  cases used : reading.uses name with
  | true => rfl
  | false =>
      rw [value?_of_unused used] at isValue
      cases isValue

theorem Reading.mem_usedRules_iff {reading : Reading} {rules : List OptionRule}
    {rule : OptionRule} :
    rule ∈ reading.usedRules rules ↔ reading.uses rule.name = true ∧
      rules.find? (fun other => other.name = rule.name) = some rule := by
  constructor
  · intro member
    refine ⟨uses_of_mem_usedRules member, ?_⟩
    obtain ⟨name, -, found⟩ := List.mem_filterMap.1 member
    have isName : rule.name = name := of_decide_eq_true (List.find?_some found :)
    rw [isName]
    exact found
  · rintro ⟨used, found⟩
    exact List.mem_filterMap.2
      ⟨rule.name, List.mem_eraseDups.2 (uses_eq_true_iff.1 used), found⟩

/-- The options of a summary that name paths name folders, and a conversion has them too. -/
theorem folderRules_of_path : ∀ rule ∈ folderRules, rule.value ≠ .none →
    rule.name ∈ [Text.ofString "project-root", Text.ofString "base-folder"] ∧
      convertRules.find? (fun other => other.name = rule.name) = some rule := by
  decide

/-- The paths of a summary are among those of a conversion that names the same folders. -/
theorem Reading.NamesSame.mem_pathValues {chosen shared : Reading} (same : chosen.NamesSame shared)
    {option : ValueRule × Text} (member : option ∈ shared.pathValues folderRules) :
    option ∈ chosen.pathValues convertRules := by
  obtain ⟨rule, isUsed, isOption⟩ := List.mem_filterMap.1 member
  split at isOption
  · cases isOption
  case isFalse noText =>
    obtain ⟨value, isValue, rfl⟩ := Option.map_eq_some_iff.1 isOption
    have isRule : rule ∈ folderRules := List.mem_of_find?_eq_some (mem_usedRules_iff.1 isUsed).2
    obtain ⟨isName, isKnown⟩ :=
      folderRules_of_path rule isRule fun noValue => noText (.inl noValue)
    have sameValue : chosen.value? rule.name = shared.value? rule.name := by
      simp only [List.mem_cons, List.not_mem_nil, or_false] at isName
      rcases isName with isRoot | isFolder
      · rw [isRoot]
        exact same.projectRoot
      · rw [isFolder]
        exact same.baseFolder
    refine List.mem_filterMap.2 ⟨rule, ?_, ?_⟩
    · exact mem_usedRules_iff.2 ⟨uses_of_value? (sameValue.trans isValue), isKnown⟩
    · rw [if_neg noText, sameValue, isValue]
      rfl

/-! ## Runs -/

section Runs

variable {surroundings : Surroundings}

section Jobs

variable {verbosity : Logging.Verbosity} {rules : List OptionRule}
  {job : Reading → Except UsageError Job} {reading : Reading}

theorem run_askedFor :
    (askedFor verbosity rules job reading).run surroundings =
      match (reading.pathValues rules).forM fun option =>
          checkValue surroundings option.1 option.2 with
      | .error halt => halt.outcome surroundings.files
      | .ok _ =>
          match readTask verbosity job reading with
          | .error error => .usage error
          | .ok task => task.run surroundings := by
  have isPaths : (askedFor verbosity rules job reading).paths = reading.pathValues rules := rfl
  have isRequest : (askedFor verbosity rules job reading).request =
      (readTask verbosity job reading).map .run := rfl
  unfold Asked.run
  rw [isPaths, isRequest]
  cases readTask verbosity job reading <;> rfl

/-- What finishes has accepted its paths and run its task. -/
theorem exists_task_of_finished {ending : Ending}
    (ended : (askedFor verbosity rules job reading).run surroundings = .ended ending)
    (finished : ending.exitCode ≠ 2) :
    (∀ option ∈ reading.pathValues rules, checkValue surroundings option.1 option.2 = .ok ()) ∧
      ∃ task, readTask verbosity job reading = .ok task ∧
        task.run surroundings = .ended ending := by
  rw [run_askedFor] at ended
  cases checked : (reading.pathValues rules).forM fun option =>
      checkValue surroundings option.1 option.2 with
  | error halt =>
      rw [checked] at ended
      have isFinished : (Outcome.ended ending).IsFinished := finished
      rw [← ended] at isFinished
      exact absurd isFinished (not_isFinished_halt halt _)
  | ok =>
      rw [checked] at ended
      refine ⟨forM_eq_ok_iff.1 checked, ?_⟩
      cases isTask : readTask verbosity job reading with
      | error error =>
          rw [isTask] at ended
          cases ended
      | ok task =>
          rw [isTask] at ended
          exact ⟨task, rfl, ended⟩

/-- What accepts its paths runs its task. -/
theorem run_of_accepted {task : Task}
    (accepted : ∀ option ∈ reading.pathValues rules,
      checkValue surroundings option.1 option.2 = .ok ())
    (isTask : readTask verbosity job reading = .ok task) :
    (askedFor verbosity rules job reading).run surroundings = task.run surroundings := by
  rw [run_askedFor, forM_eq_ok_iff.2 accepted, isTask]

end Jobs

namespace Task

variable {task : Task}

/-- A conversion that finishes has a log, and its exit code is that of the log. -/
theorem exists_prepared_of_finished {conversion : Conversion} {ending : Ending}
    (isConversion : task.job = .convert conversion) (ended : task.run surroundings = .ended ending)
    (finished : ending.exitCode ≠ 2) :
    ∃ prepared, task.prepare surroundings = .ok prepared ∧
      ending.exitCode = conversion.exitCode prepared.log := by
  have leaves : task.Leaves surroundings (task.filesAfter surroundings) (.ended ending) :=
    ended ▸ leaves_run
  generalize task.filesAfter surroundings = after at leaves
  cases leaves with
  | unprepared unfinished => exact absurd finished unfinished
  | summarized isSummary =>
      rw [isConversion] at isSummary
      cases isSummary
  | printed isJob isPrepared =>
      rw [isConversion] at isJob
      cases isJob
      exact ⟨_, isPrepared, rfl⟩
  | unwritten _ _ _ unfinished => exact absurd finished unfinished
  | wrote isJob isPrepared =>
      rw [isConversion] at isJob
      cases isJob
      exact ⟨_, isPrepared, rfl⟩

/-- A summary prepares what a conversion does whose choices leave the settings alone. -/
theorem prepare_asSummary (verbosity : Logging.Verbosity)
    (sameSettings : task.job.settings = Job.summary.settings) :
    (task.asSummary verbosity).prepare surroundings = task.prepare surroundings := by
  unfold prepare loadSettings
  rw [sameSettings]
  rfl

theorem wrap_outcome (view : View) :
    Terminal.wrap terminalWidth view.outcome = [view.outcome] := by
  unfold View.outcome
  cases view.successful <;> decide +kernel

theorem wrap_footerRule :
    Terminal.wrap terminalWidth Summary.footerRule = [Summary.footerRule] := by
  decide +kernel

theorem outcome_ofLog (details : Bool) (log : Sarif.Log) :
    (View.ofLog details log).outcome = if log.executionSuccessful
      then Text.ofString "Execution successful" else Text.ofString "Execution failed" :=
  rfl

/-- A summary of a log that can be printed shows the outcome of the run in front of its last
line. -/
theorem exists_outcome_of_summary {prepared : Prepared} (isSummary : task.job = .summary)
    (isPrepared : task.prepare surroundings = .ok prepared)
    (unbroken : ∀ crash, task.run surroundings ≠ .crash crash) :
    ∃ ending, task.run surroundings = .ended ending ∧
      lineBeforeLast? ending.stdout = some (if prepared.log.executionSuccessful
        then Text.ofString "Execution successful" else Text.ofString "Execution failed") := by
  have runs : task.run surroundings = summarize surroundings task prepared := by
    rw [run_of_prepare isPrepared, isSummary]
  unfold summarize at runs
  rw [Summary.ofJson_toJson] at runs
  dsimp only at runs
  split at runs
  · exact absurd runs (unbroken _)
  · refine ⟨_, runs, ?_⟩
    rw [← outcome_ofLog (task.verbosity != .quiet)]
    dsimp only
    exact Summary.lineBeforeLast?_print _ (wrap_outcome _) wrap_footerRule

/-- A prepared log tells of a failure if and only if the report that it is made of holds one. -/
theorem exists_results_of_prepared {prepared : Prepared}
    (isPrepared : task.prepare surroundings = .ok prepared) :
    ∃ text value items, task.Reads surroundings prepared.settings text ∧
      Json.read text = .ok value ∧ Lint.resultsOf? value = some items ∧
      (prepared.log.executionSuccessful = false ↔
        Lint.HoldsFailure prepared.settings.ignoreSuppressed items) := by
  obtain ⟨text, reads, isReport, isLog⟩ := exists_of_prepare isPrepared
  obtain ⟨value, isValue, isRead⟩ := Lint.exists_read_of_readReport isReport
  obtain ⟨items, holds, areResults⟩ := Lint.results_of_reportOfJson isRead
  refine ⟨text, value, items, reads, isValue, holds, ?_⟩
  rw [Sarif.executionSuccessful_eq_false_iff isLog, areResults]
  exact (Sarif.holdsFailure_iff _ items).symm

end Task

/-! ## One log for both commands -/

section Commands

variable {arguments : List Text} {chosen shared : Reading}

/-- Without other choices a conversion works with the settings of the project. -/
theorem settings_of_exitCode :
    (Job.convert { failOnError := true }).settings = Job.summary.settings := by
  funext settings
  simp [Job.settings, Conversion.applyTo]

/-- A conversion that finishes has accepted its paths and prepared its log, and its exit code is
that of the log. -/
theorem Converts.exists_prepared {ending : Ending} (converts : Converts arguments chosen)
    (chooses : chosen.ChoosesExitCode) (ended : run arguments surroundings = .ended ending)
    (finished : ending.exitCode ≠ 2) :
    (∀ option ∈ chosen.pathValues convertRules,
      checkValue surroundings option.1 option.2 = .ok ()) ∧
    ∃ verbosity task prepared,
      readTask verbosity (fun reading => (readConversion reading).map .convert) chosen =
        .ok task ∧
      task.job.settings = Job.summary.settings ∧ task.prepare surroundings = .ok prepared ∧
      ending.exitCode = Conversion.exitCode { failOnError := true } prepared.log := by
  unfold run at ended
  rcases converts.asked with ⟨error, isRefused⟩ | ⟨verbosity, isAsked⟩
  · rw [isRefused] at ended
    cases ended
  · rw [isAsked] at ended
    obtain ⟨accepted, task, isTask, taskEnded⟩ := exists_task_of_finished ended finished
    obtain ⟨conversion, isRead⟩ := Task.exists_isRead isTask
    have isConversion := chooses.conversion isRead.conversion
    subst isConversion
    obtain ⟨prepared, isPrepared, isCode⟩ :=
      Task.exists_prepared_of_finished isRead.job taskEnded finished
    exact ⟨accepted, verbosity, task, prepared, isTask, isRead.job ▸ settings_of_exitCode,
      isPrepared, isCode⟩

/-- A summary of a report of which a conversion has prepared a log shows the outcome of that log. -/
theorem Summarizes.exists_shown {verbosity : Logging.Verbosity}
    {job : Reading → Except UsageError Job} {task : Task} {prepared : Prepared}
    (summarizes : Summarizes arguments shared) (same : chosen.NamesSame shared)
    (accepted : ∀ option ∈ chosen.pathValues convertRules,
      checkValue surroundings option.1 option.2 = .ok ())
    (isTask : readTask verbosity job chosen = .ok task)
    (sameSettings : task.job.settings = Job.summary.settings)
    (isPrepared : task.prepare surroundings = .ok prepared)
    (unbroken : ∀ crash, run arguments surroundings ≠ .crash crash) :
    ∃ ending summary, run arguments surroundings = .ended ending ∧
      (Asked.ofArguments arguments).request = .ok (.run summary) ∧
      summary.prepare surroundings = .ok prepared ∧
      lineBeforeLast? ending.stdout = some (if prepared.log.executionSuccessful
        then Text.ofString "Execution successful" else Text.ofString "Execution failed") := by
  obtain ⟨other, isAsked⟩ := summarizes.asked
  have isSummary := same.readTask other isTask
  have runs := run_of_accepted (fun option member => accepted option (same.mem_pathValues member))
    isSummary
  have alsoPrepared : (task.asSummary other).prepare surroundings = .ok prepared :=
    (task.prepare_asSummary other sameSettings).trans isPrepared
  unfold run at unbroken ⊢
  rw [isAsked, runs] at unbroken
  obtain ⟨ending, ended, isShown⟩ := Task.exists_outcome_of_summary rfl alsoPrepared unbroken
  refine ⟨ending, task.asSummary other, ?_, ?_, alsoPrepared, isShown⟩
  · rw [isAsked, runs, ended]
  · have isRequest : (askedFor other folderRules (fun _ => .ok .summary) shared).request =
        (readTask other (fun _ => .ok .summary) shared).map .run := rfl
    rw [isAsked, isRequest, isSummary, ok_map]

end Commands

/-! ## Agreement -/

/-- The exit code of a conversion and the output of a summary tell the same of a run. -/
structure TellSame (conversion summary : Ending) (failed : Prop) : Prop where
  shown : conversion.exitCode = 1 ↔
    lineBeforeLast? summary.stdout = some (Text.ofString "Execution failed")
  reported : conversion.exitCode = 1 ↔ failed
  otherwise : conversion.exitCode ≠ 1 → conversion.exitCode = 0 ∧
    lineBeforeLast? summary.stdout = some (Text.ofString "Execution successful")

/-- What is told of a log depends on whether the log tells of success. -/
theorem tellSame_of_log {conversion summary : Ending} {failed : Prop} {log : Sarif.Log}
    (isCode : conversion.exitCode = Conversion.exitCode { failOnError := true } log)
    (isShown : lineBeforeLast? summary.stdout = some (if log.executionSuccessful
      then Text.ofString "Execution successful" else Text.ofString "Execution failed"))
    (failed_iff : log.executionSuccessful = false ↔ failed) :
    TellSame conversion summary failed := by
  have differ : Text.ofString "Execution successful" ≠ Text.ofString "Execution failed" := by
    decide
  cases successful : log.executionSuccessful with
  | true =>
      have isZero : conversion.exitCode = 0 := by
        rw [isCode, Conversion.exitCode, successful]
        rfl
      rw [successful, if_pos rfl] at isShown
      have noFailure : ¬ failed := fun fails => by
        rw [failed_iff.2 fails] at successful
        cases successful
      refine ⟨?_, ?_, fun _ => ⟨isZero, isShown⟩⟩
      · rw [isZero, isShown]
        exact iff_of_false Nat.zero_ne_one fun same => differ (Option.some.inj same)
      · rw [isZero]
        exact iff_of_false Nat.zero_ne_one noFailure
  | false =>
      have isOne : conversion.exitCode = 1 := by
        rw [isCode, Conversion.exitCode, successful]
        rfl
      rw [successful, if_neg Bool.false_ne_true] at isShown
      exact ⟨iff_of_true isOne isShown, iff_of_true isOne (failed_iff.1 successful),
        fun other => absurd isOne other⟩

/-- **Exit code and summary.**  If a conversion that chooses nothing but an exit code for failures
ends with a log, and a summary of the same report in the same folders does not break off, then the
summary is shown, and both tell the same: that the run failed if and only if among the messages of
the report, and the suppressed ones unless the project ignores them, there is an error of no rule.
-/
theorem exit_code_agrees_with_summary {converting summarizing : List Text} {chosen shared : Reading}
    {conversion : Ending} (converts : Converts converting chosen) (chooses : chosen.ChoosesExitCode)
    (summarizes : Summarizes summarizing shared) (same : chosen.NamesSame shared)
    (ended : run converting surroundings = .ended conversion) (finished : conversion.exitCode ≠ 2)
    (unbroken : ∀ crash, run summarizing surroundings ≠ .crash crash) :
    ∃ summary task settings text value items,
      run summarizing surroundings = .ended summary ∧
      (Asked.ofArguments summarizing).request = .ok (.run task) ∧
      task.Reads surroundings settings text ∧ Json.read text = .ok value ∧
      Lint.resultsOf? value = some items ∧
      TellSame conversion summary (Lint.HoldsFailure settings.ignoreSuppressed items) := by
  obtain ⟨accepted, _, _, prepared, isTask, sameSettings, isPrepared, isCode⟩ :=
    converts.exists_prepared chooses ended finished
  obtain ⟨summary, task, isSummary, asks, alsoPrepared, isShown⟩ :=
    summarizes.exists_shown same accepted isTask sameSettings isPrepared unbroken
  obtain ⟨text, value, items, reads, isValue, holds, failed_iff⟩ :=
    Task.exists_results_of_prepared alsoPrepared
  exact ⟨summary, task, prepared.settings, text, value, items, isSummary, asks, reads, isValue,
    holds, tellSame_of_log isCode isShown failed_iff⟩

end Runs

/-! ## A report whose only failure is suppressed -/

/-- A project that takes suppressed messages in, and a message that is fatal and has an empty rule
id. -/
def failingSurroundings : Surroundings where
  files := [([Text.ofString "project"], .directory),
    ([Text.ofString "project", Config.fileName],
      .file ((Text.ofString "[tool.lintsarif]\nfingerprints = false\n").flatMap Text.utf8Bytes))]
  directory := [Text.ofString "project"]
  input :=
    "[\x7b\"filePath\": \"a.js\", \"suppressedMessages\": [\x7b\"ruleId\": \"\", \"fatal\": true\x7d]\x7d]"

def failingTask : Task where
  job := .convert { failOnError := true }
  input := "-"

def failingReport : Lint.Report where
  results := [{ path := "a.js", suppressedMessages := [{ text := [], fatal := true }] }]

def failingLog : Sarif.Log where
  driver := { name := "ESLint", informationUri := "https://eslint.org" }
  artifacts := [⟨"a.js"⟩]
  notifications := [{
    level := .error
    text := []
    location := { uri := "a.js", index := 0 } }]

/-- The exit code is that of a failure, and the summary shows one. -/
theorem exit_code_agrees_with_summary_sample :
    ∃ conversion summary,
      run ["convert", "-", "--fail-on-error"] failingSurroundings = .ended conversion ∧
      run ["summary", "-"] failingSurroundings = .ended summary ∧ conversion.exitCode = 1 ∧
      lineBeforeLast? summary.stdout = some (Text.ofString "Execution failed") := by
  have converts : Converts ["convert", "-", "--fail-on-error"]
      { occurrences := [{ name := "fail-on-error" }], operands := ["-"] } :=
    { command := ⟨_, _, rfl, rfl, rfl, rfl⟩, noHelp := rfl }
  have summarizes : Summarizes ["summary", "-"] { operands := ["-"] } :=
    { command := ⟨_, _, rfl, rfl, rfl, rfl, rfl⟩, noHelp := rfl }
  have chooses : Reading.ChoosesExitCode
      { occurrences := [{ name := "fail-on-error" }], operands := ["-"] } := by
    refine ⟨rfl, fun name used => ?_⟩
    rw [Reading.uses_eq_true_iff, List.map_singleton, List.mem_singleton] at used
    rw [used]
    decide
  have reads : failingTask.Reads failingSurroundings { fingerprints := false }
      failingSurroundings.input :=
    ⟨eq_ok_of_toOption (by decide +kernel), eq_ok_of_toOption (by decide +kernel)⟩
  have isReport : Lint.readReport failingSurroundings.input = .ok failingReport :=
    eq_ok_of_toOption (by decide +kernel)
  have isLog : Sarif.Log.ofReport (failingTask.optionsFor failingSurroundings
      { fingerprints := false }) failingReport = .ok failingLog :=
    eq_ok_of_toOption (by decide +kernel)
  have isPrepared := Task.prepare_of_reads reads isReport isLog
  have isOtherPrepared :=
    (failingTask.prepare_asSummary .normal settings_of_exitCode).trans isPrepared
  have ended : run ["convert", "-", "--fail-on-error"] failingSurroundings = .ended _ :=
    (Task.run_of_isConversion rfl isPrepared).trans (Task.deliver_of_nowhere rfl)
  have unbroken : ∀ crash, run ["summary", "-"] failingSurroundings ≠ .crash crash := by
    intro crash crashed
    have runs : run ["summary", "-"] failingSurroundings =
        summarize failingSurroundings (failingTask.asSummary .normal) _ :=
      Task.run_of_prepare isOtherPrepared
    have shown := (congrArg Outcome.silent runs).trans (silent_summarize _)
    rw [printed_eq_ended_iff.2 ⟨by decide +kernel, rfl⟩, crashed] at shown
    cases shown
  obtain ⟨summary, _, _, _, _, _, isShown, _, _, _, _, tellSame⟩ :=
    exit_code_agrees_with_summary converts chooses summarizes ⟨rfl, rfl, rfl⟩ ended (by decide)
      unbroken
  exact ⟨_, summary, ended, isShown, rfl, tellSame.shown.1 rfl⟩

end Findings.Command
