import Findings.Proofs.Command.Aftermath
import Findings.Proofs.Command.Arguments
import Findings.Proofs.Command.Contract
import Findings.Proofs.Command.Conversion
import Findings.Proofs.Command.Tasks
import Findings.Proofs.Text.Lines
import Findings.Proofs.Text.Utf8

/-!
Contract: a report in a file and a report on standard input.

Owns:
- the input of a command line is the text of its task that says where the report is, and changes
  nothing else in what is asked for (`exists_asked_of_input`);
- `stdin_like_file`: a run does with a report on standard input what it does with the report in a
  file, however the lines end in the one and in the other.

A file whose name is a hyphen, blanks apart, cannot be named as an input, because that is the name of
standard input.
-/

set_option autoImplicit false

namespace Findings.Command

open Reading (IsFirstOperand withFirst)

/-! ## The input of a command line -/

/-- A task with its report somewhere else. -/
def Task.withInput (input : Text) (task : Task) : Task := { task with input := input }

/-- The commands that read a report, with their options. -/
def reportCommands : List (Text × List OptionRule) :=
  [("convert", convertRules), ("summary", folderRules)]

section CommandLines

variable {rules : List OptionRule} {job : Reading → Except UsageError Job}

/-- The first operand is the input, and it does not matter for whether there are too many. -/
theorem readTask_withFirst (verbosity : Logging.Verbosity)
    (blind : ∀ input reading, job (withFirst input reading) = job reading) (input : Text)
    (reading : Reading) :
    readTask verbosity job (withFirst input reading) =
      (readTask verbosity job (withFirst [] reading)).map (Task.withInput input) := by
  unfold readTask readInput
  rw [blind, blind]
  unfold withFirst
  cases reading.operands with
  | cons extra rest => rfl
  | nil =>
      dsimp only
      rw [ok_bind, ok_bind]
      cases job reading <;> rfl

/-- What a command asks for depends on its input in the task only. -/
theorem exists_askJob_eq (verbosity : Logging.Verbosity)
    (blind : ∀ input reading, job (withFirst input reading) = job reading)
    (front back : List Text) :
    ∃ asked : Asked, ∀ input, IsFirstOperand rules true front input →
      askJob verbosity rules job (front ++ input :: back) = asked.mapTask (Task.withInput input) := by
  obtain ⟨around, reads⟩ := Reading.exists_ofArguments_eq rules true front back
  cases around with
  | error error =>
      refine ⟨.refused error, fun input isFirst => ?_⟩
      unfold askJob
      rw [reads input isFirst]
      rfl
  | ok reading =>
      refine ⟨if reading.uses "help" then .immediate .help else {
          paths := reading.pathValues rules
          request := (readTask verbosity job (withFirst [] reading)).map .run },
        fun input isFirst => ?_⟩
      have sameUses : (withFirst input reading).uses "help" = reading.uses "help" := rfl
      unfold askJob
      rw [reads input isFirst, ok_map]
      dsimp only
      rw [sameUses]
      split
      · rfl
      · rw [readTask_withFirst verbosity blind]
        unfold Asked.mapTask
        dsimp only
        cases readTask verbosity job (withFirst [] reading) <;> rfl

/-- A command that reads a report does not look at its operands. -/
theorem exists_job_of_command {command : Text} (isCommand : (command, rules) ∈ reportCommands) :
    ∃ job : Reading → Except UsageError Job,
      (∀ input reading, job (withFirst input reading) = job reading) ∧
      ∀ verbosity, command? verbosity command = some (askJob verbosity rules job) := by
  simp only [reportCommands, List.mem_cons, Prod.mk.injEq, List.not_mem_nil, or_false] at isCommand
  rcases isCommand with ⟨rfl, rfl⟩ | ⟨rfl, rfl⟩
  · exact ⟨fun reading => (readConversion reading).map .convert, fun _ _ => rfl, fun _ => rfl⟩
  · exact ⟨fun _ => .ok .summary, fun _ _ => rfl, fun _ => rfl⟩

/-- **The input of a command line.**  Command lines that differ in their input only ask for the same
thing with another input. -/
theorem exists_asked_of_input {program : List Text} {command : Text}
    (isCommand : (command, rules) ∈ reportCommands)
    (commandFirst : IsFirstOperand programRules false program command) (front back : List Text) :
    ∃ asked : Asked, ∀ input, IsFirstOperand rules true front input →
      Asked.ofArguments (program ++ command :: (front ++ input :: back)) =
        asked.mapTask (Task.withInput input) := by
  obtain ⟨job, blind, isJob⟩ := exists_job_of_command isCommand
  rcases ofArguments_command isJob commandFirst with ⟨asked, idle, asks⟩ | ⟨verbosity, asks⟩
  · exact ⟨asked, fun input _ => (asks _).trans (asked.mapTask_of_isIdle idle _).symm⟩
  · obtain ⟨asked, asksFor⟩ := @exists_askJob_eq rules job verbosity blind front back
    exact ⟨asked, fun input isFirst => (asks _).trans (asksFor input isFirst)⟩

end CommandLines

/-! ## The text of a report -/

section Reports

variable {task : Task} {surroundings : Surroundings} {file input stream content : Text}
  {lineEnd : Text.LineEnd}

/-- A report in a file is read as it was written, however its lines end. -/
theorem reportText_of_file (isFile : file.trimBlank ≠ Text.ofString "-")
    (free : content.IsSurrogateFree) (noReturn : Text.carriageReturn ∉ content)
    (holds : Files.readFile surroundings.files surroundings.directory (Path.ofText file) =
      .ok ((content.withEnds lineEnd).flatMap Text.utf8Bytes)) :
    (task.withInput file).reportText surroundings = .ok content := by
  have fromFile : ¬ (task.withInput file).readsStdin = true := by
    unfold Task.readsStdin
    rw [decide_eq_true_eq]
    exact isFile
  unfold Task.reportText
  rw [if_neg fromFile]
  show (Files.readFile surroundings.files surroundings.directory (Path.ofText file)).map _ = _
  rw [holds, ok_map, Text.decodeUtf8Lenient_utf8Bytes (free.withEnds lineEnd),
    Text.universalNewlines_withEnds lineEnd noReturn]

/-- A report on standard input is read as it was written, however its lines end. -/
theorem reportText_of_stdin (noReturn : Text.carriageReturn ∉ content)
    (holds : surroundings.input = content.withEnds lineEnd) :
    (task.withInput "-").reportText surroundings = .ok content := by
  have fromStdin : (task.withInput "-").readsStdin = true := by
    unfold Task.readsStdin
    rw [decide_eq_true_eq]
    rfl
  unfold Task.reportText
  rw [if_pos fromStdin, holds, Text.universalNewlines_withEnds lineEnd noReturn]

/-! ## Runs -/

theorem prepare_of_sameText
    (sameText : (task.withInput input).reportText { surroundings with input := stream } =
      (task.withInput file).reportText surroundings) :
    (task.withInput input).prepare { surroundings with input := stream } =
      (task.withInput file).prepare surroundings := by
  have sameSettings : (task.withInput input).loadSettings { surroundings with input := stream } =
      (task.withInput file).loadSettings surroundings := rfl
  unfold Task.prepare
  rw [sameSettings, sameText]
  rfl

/-- Where the text of the report is the same, a task does the same. -/
theorem run_of_sameText
    (sameText : (task.withInput input).reportText { surroundings with input := stream } =
      (task.withInput file).reportText surroundings) :
    (task.withInput input).run { surroundings with input := stream } =
        (task.withInput file).run surroundings ∧
      (task.withInput input).filesAfter { surroundings with input := stream } =
        (task.withInput file).filesAfter surroundings := by
  have sameJob : (task.withInput input).job = (task.withInput file).job := rfl
  have sameDestination : (task.withInput input).destination? =
    (task.withInput file).destination? := rfl
  have sameDelivery : deliver { surroundings with input := stream } (task.withInput input) =
      deliver surroundings (task.withInput file) := rfl
  have sameSummary : summarize { surroundings with input := stream } (task.withInput input) =
      summarize surroundings (task.withInput file) := by
    funext prepared
    simp only [summarize, Task.withInput]
  unfold Task.run Task.filesAfter
  rw [prepare_of_sameText sameText, sameJob, sameDestination, sameDelivery, sameSummary]
  exact ⟨rfl, rfl⟩

/-- **One report, two channels.**  A command line that names a file does what it does with a hyphen in
the place of the file and the text of the file on standard input.  The lines of the file and those on
standard input can end in any of the three ways. -/
theorem stdin_like_file {rules : List OptionRule} {program front : List Text} {command : Text}
    (streamEnd : Text.LineEnd) (back : List Text)
    (isCommand : (command, rules) ∈ reportCommands)
    (commandFirst : IsFirstOperand programRules false program command)
    (fileFirst : IsFirstOperand rules true front file)
    (isFile : file.trimBlank ≠ Text.ofString "-")
    (free : content.IsSurrogateFree) (noReturn : Text.carriageReturn ∉ content)
    (holds : Files.readFile surroundings.files surroundings.directory (Path.ofText file) =
      .ok ((content.withEnds lineEnd).flatMap Text.utf8Bytes)) :
    run (program ++ command :: (front ++ Text.ofString "-" :: back))
        { surroundings with input := content.withEnds streamEnd } =
      run (program ++ command :: (front ++ file :: back)) surroundings ∧
    filesAfter (program ++ command :: (front ++ Text.ofString "-" :: back))
        { surroundings with input := content.withEnds streamEnd } =
      filesAfter (program ++ command :: (front ++ file :: back)) surroundings := by
  obtain ⟨asked, asks⟩ := exists_asked_of_input isCommand commandFirst front back
  have fromStdin : asked.mapTask (Task.withInput "-") =
      (asked.mapTask (Task.withInput file)).mapTask (Task.withInput "-") := by
    rw [Asked.mapTask_mapTask]
    rfl
  unfold run filesAfter
  rw [asks file fileFirst, asks _ fileFirst.hyphen, fromStdin]
  rcases (asked.mapTask (Task.withInput file)).run_mapTask_cases (Task.withInput "-") surroundings
      (content.withEnds streamEnd) with
    ⟨task, asksFor, ⟨isRun, isRunStdin⟩, isAfter, isAfterStdin⟩ | ⟨sameRun, sameAfter, _⟩
  · obtain ⟨before, rfl⟩ := Asked.exists_of_mapTask asksFor
    rw [isRun, isRunStdin, isAfter, isAfterStdin]
    apply run_of_sameText
    rw [reportText_of_file isFile free noReturn holds]
    exact reportText_of_stdin noReturn rfl
  · exact ⟨sameRun, sameAfter⟩

end Reports

/-! ## A report that its log replaces -/

/-- A project with a file of some name. -/
def projectWithReport (name : Text) (content : List UInt8) : Surroundings where
  files := [([Text.ofString "project"], .directory),
    ([Text.ofString "project", name], .file content)]
  directory := [Text.ofString "project"]
  input := []

/-- A report of two lines. -/
def twoLines : Text := "[\n]"

theorem stdin_like_file_sample :
    Files.readFile (projectWithReport "report.json"
          ((twoLines.withEnds .returnAndFeed).flatMap Text.utf8Bytes)).files
        [Text.ofString "project"] (Path.ofText "report.json") =
      .ok ((twoLines.withEnds .returnAndFeed).flatMap Text.utf8Bytes) ∧
    run ["-q", "convert", "--output", "report.json", "-"]
        { projectWithReport "report.json"
            ((twoLines.withEnds .returnAndFeed).flatMap Text.utf8Bytes) with
          input := twoLines.withEnds .carriageReturn } =
      run ["-q", "convert", "--output", "report.json", "report.json"]
        (projectWithReport "report.json"
          ((twoLines.withEnds .returnAndFeed).flatMap Text.utf8Bytes)) := by
  have commandFirst : IsFirstOperand programRules false ["-q"] "convert" := by
    intro reading isFront
    cases isFront
    exact ⟨rfl, .inr ⟨rfl, by decide⟩⟩
  have fileFirst : IsFirstOperand convertRules true ["--output", "report.json"] "report.json" := by
    intro reading isFront
    cases isFront
    exact ⟨rfl, .inr ⟨rfl, by decide⟩⟩
  have free : twoLines.IsSurrogateFree := Text.isSurrogateFree_ofString _
  have holds : Files.readFile (projectWithReport "report.json"
          ((twoLines.withEnds .returnAndFeed).flatMap Text.utf8Bytes)).files
        [Text.ofString "project"] (Path.ofText "report.json") =
      .ok ((twoLines.withEnds .returnAndFeed).flatMap Text.utf8Bytes) := rfl
  exact ⟨holds, (stdin_like_file .carriageReturn [] (by decide) commandFirst fileFirst (by decide)
    free (by decide) holds).1⟩

/-- An empty report in a file that is named like standard input, blanks apart. -/
def blankNamed : Surroundings := projectWithReport " - " [0x5B, 0x5D]

/-- Such a file is not read, so its report is not found where standard input holds nothing. -/
theorem stdin_unlike_blank_file :
    IsFirstOperand convertRules true [] " - " ∧
      Files.readFile blankNamed.files [Text.ofString "project"] (Path.ofText " - ") =
        .ok ((Text.ofString "[]").flatMap Text.utf8Bytes) ∧
      run ["convert", "-"] { blankNamed with input := "[]" } ≠
        run ["convert", " - "] blankNamed := by
  refine ⟨?first, rfl, fun same => ?differs⟩
  case first =>
    intro reading isFront
    cases isFront
    exact ⟨rfl, .inr ⟨rfl, by decide⟩⟩
  case differs =>
    have fromStdin : run ["convert", "-"] { blankNamed with input := "[]" } =
        sampleConversion.run { blankNamed with input := "[]" } := rfl
    have fromBlank : run ["convert", " - "] blankNamed =
        (sampleConversion.withInput " - ").run blankNamed := rfl
    have isReport : Lint.readReport "[]" = .ok { results := [] } :=
      eq_ok_of_toOption (by decide +kernel)
    have isPrepared := @Task.prepare_of_reads sampleConversion { blankNamed with input := "[]" }
      {} "[]" _ _ ⟨rfl, rfl⟩ isReport rfl
    have noReport : (Lint.readReport []).toOption = none := by decide +kernel
    rw [fromStdin, Task.run_of_isConversion rfl isPrepared, Task.deliver_of_nowhere rfl,
      fromBlank] at same
    cases isRead : Lint.readReport [] with
    | ok report =>
        rw [isRead] at noReport
        cases noReport
    | error error =>
        have fails : (sampleConversion.withInput " - ").FailsWith blankNamed (.report error) :=
          @Task.FailsWith.report _ _ {} [] _ ⟨rfl, rfl⟩ isRead
        exact absurd (Task.ending_of_failsWith fails same.symm).1 (by decide)

end Findings.Command
