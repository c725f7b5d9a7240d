import Findings.Command.Run
import Findings.Proofs.Files.Paths
import Findings.Proofs.Sarif.Encodable
import Findings.Proofs.Summary.View

/-!
Contract: how a task ends when something is wrong with what it works on.

Owns:
- `Task.FailsWith`, the faults that leave a task without a log to deliver, in the order in which they
  are met, and which of them the program looks out for;
- how a run ends with such a fault, and when delivery ends with a fault of its own;
- the exit codes.

Does not own: which texts are no reports or settings, and what is promised of a run
(`Findings.Proofs.Command.Contract`).
-/

set_option autoImplicit false

namespace Findings

/-- A file is not there. -/
def Files.Failure.IsAbsence : Files.Failure → Prop
  | .refused ⟨.missing, _⟩ | .refused ⟨.notDirectory, _⟩ => True
  | _ => False

namespace Command

/-! ## Faults -/

/-- Why a task has no log to deliver. -/
inductive Fault where
  | settings (error : Config.LoadError)
  | file (failure : Files.Failure)
  | report (error : Lint.ReadError)
  | log (fault : Text.EncodeFault)

/-- What a user is to be told of a fault. -/
def Fault.message : Fault → Text
  | .settings error => Text.ofString "Invalid configuration: " ++ error.message
  | .file failure => aboutReport ++ failure.message
  | .report error => aboutReport ++ error.message
  | .log fault => aboutReport ++ fault.message

/-- The fault is one that the program looks out for: faulty settings, a report in no file, or a text
that is no report. -/
def Fault.IsHandled : Fault → Prop
  | .settings (.config _) | .file (.refused _) | .report (.report _) => True
  | _ => False

/-- How preparation ends with a fault. -/
def Fault.halt : Fault → Halt
  | .settings error => .ofLoad error
  | .file failure => .ofFile failure
  | .report error => .ofReport error
  | .log fault => .crash (.unencodable fault)

theorem Fault.halt_of_isHandled {fault : Fault} (handled : fault.IsHandled) :
    fault.halt = .complaint fault.message := by
  cases fault with
  | settings error => cases error <;> first | rfl | cases handled
  | file failure => cases failure <;> first | rfl | cases handled
  | report error => cases error <;> first | rfl | cases handled
  | log fault => cases handled

theorem Fault.halt_of_not_isHandled {fault : Fault} (unhandled : ¬ fault.IsHandled) :
    ∃ crash, fault.halt = .crash crash := by
  cases fault with
  | settings error => cases error <;> first | exact ⟨_, rfl⟩ | exact absurd trivial unhandled
  | file failure => cases failure <;> first | exact ⟨_, rfl⟩ | exact absurd trivial unhandled
  | report error => cases error <;> first | exact ⟨_, rfl⟩ | exact absurd trivial unhandled
  | log fault => exact ⟨_, rfl⟩

namespace Task

variable (task : Task) (surroundings : Surroundings)

/-- A task finds its settings and the text of its report. -/
structure Reads (settings : Config.Settings) (text : Text) : Prop where
  settings : task.loadSettings surroundings = .ok settings
  text : task.reportText surroundings = .ok text

/-- The configuration file of the project of a task. -/
def settingsFile : Path := Config.fileOf (task.project surroundings.directory)

/-- The options under which a task makes its log. -/
def optionsFor (settings : Config.Settings) : Sarif.Options :=
  settings.options (task.base surroundings.directory settings).toText

/-- A task has no log to deliver: its settings cannot be loaded, or else its report cannot be read,
or else the report cannot be turned into a log. -/
inductive FailsWith : Fault → Prop where
  | settings {error : Config.LoadError}
      (unloaded : Config.load surroundings.files surroundings.directory
        (task.project surroundings.directory) = .error error) :
      FailsWith (.settings error)
  | file {settings : Config.Settings} {failure : Files.Failure}
      (loaded : task.loadSettings surroundings = .ok settings)
      (unread : task.reportText surroundings = .error failure) :
      FailsWith (.file failure)
  | report {settings : Config.Settings} {text : Text} {error : Lint.ReadError}
      (reads : task.Reads surroundings settings text)
      (noReport : Lint.readReport text = .error error) :
      FailsWith (.report error)
  | log {settings : Config.Settings} {text : Text} {report : Lint.Report}
      {fault : Text.EncodeFault}
      (reads : task.Reads surroundings settings text)
      (isReport : Lint.readReport text = .ok report)
      (noLog : Sarif.Log.ofReport (task.optionsFor surroundings settings) report = .error fault) :
      FailsWith (.log fault)

/-! ## Preparation -/

variable {task surroundings}

theorem loadSettings_eq_error_iff {halt : Halt} :
    task.loadSettings surroundings = .error halt ↔
      ∃ error, Config.load surroundings.files surroundings.directory
        (task.project surroundings.directory) = .error error ∧ Halt.ofLoad error = halt := by
  unfold loadSettings
  rw [bind_eq_error_iff, mapError_eq_error_iff]
  constructor
  · rintro (failed | ⟨_, _, returned⟩)
    · exact failed
    · cases returned
  · exact Or.inl

/-- Preparation ends early just with a fault of the task. -/
theorem prepare_eq_error_iff {halt : Halt} :
    task.prepare surroundings = .error halt ↔
      ∃ fault, task.FailsWith surroundings fault ∧ fault.halt = halt := by
  unfold prepare
  simp only [bind_eq_error_iff, mapError_eq_error_iff, mapError_eq_ok_iff,
    loadSettings_eq_error_iff]
  constructor
  · rintro (⟨error, unloaded, isHalt⟩ | ⟨settings, loaded, ⟨failure, unread, isHalt⟩ |
      ⟨text, read, ⟨error, noReport, isHalt⟩ | ⟨report, isReport, ⟨fault, noLog, isHalt⟩ |
        ⟨log, _, returned⟩⟩⟩⟩)
    · exact ⟨.settings error, .settings unloaded, isHalt⟩
    · exact ⟨.file failure, .file loaded unread, isHalt⟩
    · exact ⟨.report error, .report ⟨loaded, read⟩ noReport, isHalt⟩
    · exact ⟨.log fault, .log ⟨loaded, read⟩ isReport noLog, isHalt⟩
    · cases returned
  · rintro ⟨fault, fails, isHalt⟩
    cases fails with
    | settings unloaded => exact .inl ⟨_, unloaded, isHalt⟩
    | file loaded unread => exact .inr ⟨_, loaded, .inl ⟨_, unread, isHalt⟩⟩
    | report reads noReport =>
        exact .inr ⟨_, reads.settings, .inr ⟨_, reads.text, .inl ⟨_, noReport, isHalt⟩⟩⟩
    | log reads isReport noLog =>
        exact .inr ⟨_, reads.settings, .inr ⟨_, reads.text, .inr ⟨_, isReport,
          .inl ⟨_, noLog, isHalt⟩⟩⟩⟩

theorem run_of_failsWith {fault : Fault} (fails : task.FailsWith surroundings fault) :
    task.run surroundings = fault.halt.outcome surroundings.files := by
  unfold run
  rw [prepare_eq_error_iff.2 ⟨fault, fails, rfl⟩]

/-! ## Faults that nothing catches -/

theorem load_unhandled_iff {files : Files.Tree} {directory : Files.Location} {project : Path} :
    (∃ error, Config.load files directory project = .error error ∧
        ¬ (Fault.settings error).IsHandled) ↔
      (∃ failure, Files.readFile files directory (Config.fileOf project) = .error failure ∧
        ¬ failure.IsAbsence) ∨
      ∃ bytes, Files.readFile files directory (Config.fileOf project) = .ok bytes ∧
        ((∃ fault, Text.decodeUtf8 bytes = .error fault) ∨
          ∃ text digits, Text.decodeUtf8 bytes = .ok text ∧
            Toml.read (Text.universalNewlines text) = .error (.excessiveInteger digits)) := by
  unfold Config.load
  cases Files.readFile files directory (Config.fileOf project) with
  | error failure =>
      cases failure with
      | nullCharacter => simp [Fault.IsHandled, Files.Failure.IsAbsence]
      | unencodable fault => simp [Fault.IsHandled, Files.Failure.IsAbsence]
      | refused fault =>
          obtain ⟨cause, path⟩ := fault
          cases cause <;> simp [Fault.IsHandled, Files.Failure.IsAbsence]
  | ok bytes =>
      unfold Config.Settings.ofBytes
      cases decoded : Text.decodeUtf8 bytes with
      | error fault => simp [decoded, Fault.IsHandled]
      | ok text =>
          cases read : Toml.read (Text.universalNewlines text) with
          | error error =>
              cases error <;> simp [decoded, read, Fault.IsHandled, Config.LoadError.ofToml]
          | ok document =>
              cases found : Config.Settings.ofDocument document <;>
                simp [decoded, read, found, Fault.IsHandled]

theorem isHandled_file_iff (failure : Files.Failure) :
    (Fault.file failure).IsHandled ↔ failure.IsRefusal := by
  cases failure <;> exact Iff.rfl

theorem reportText_unhandled_iff :
    (∃ failure, task.reportText surroundings = .error failure ∧ ¬ (Fault.file failure).IsHandled) ↔
      task.readsStdin = false ∧ ¬ Files.IsPathText task.input := by
  have fileFails : ∀ failure, (Files.readFile surroundings.files surroundings.directory
        (Path.ofText task.input)).map (fun bytes =>
          Text.universalNewlines (Text.decodeUtf8Lenient bytes)) = .error failure ↔
      Files.readFile surroundings.files surroundings.directory (Path.ofText task.input) =
        .error failure := by
    intro failure
    cases Files.readFile surroundings.files surroundings.directory (Path.ofText task.input) <;> simp
  unfold reportText
  cases task.readsStdin with
  | true => simp
  | false =>
      rw [← Files.isPathText_ofText_iff, ← Files.breaksOff_readFile_iff surroundings.files
        surroundings.directory]
      simp only [Bool.false_eq_true, if_false, fileFails, isHandled_file_iff, true_and]
      rfl

/-! ## Delivery -/

theorem complain_eq_crash_iff {files : Files.Tree} {logged message : Text} :
    (∃ crash, complain files logged message = .crash crash) ↔
      ∃ fault, Terminal.printMarkup terminalWidth message = .error fault := by
  unfold complain
  cases Terminal.printMarkup terminalWidth message <;> simp

/-- Writing a log breaks off just where the path of its file is none, and the folder of the file is
not refused before that. -/
theorem writeLog_breaksOff_iff {destination : Path} {log : Sarif.Log} :
    (∃ failure, (writeLog surroundings destination log).2 = some failure ∧
        ¬ failure.IsRefusal) ↔
      ¬ Files.IsPathText destination.toText ∧
        (Files.IsPathText destination.parent.toText →
          (Files.makeDirectories surroundings.files surroundings.directory
            destination.parent).2 = none) := by
  have folder_iff := Files.makeDirectories_breaksOff_iff surroundings.files surroundings.directory
    destination.parent
  unfold writeLog
  cases made : Files.makeDirectories surroundings.files surroundings.directory
      destination.parent with
  | mk files failed =>
      rw [made] at folder_iff
      cases failed with
      | some failure =>
          constructor
          · rintro ⟨_, isFailure, noRefusal⟩
            cases isFailure
            have folderUnfit := folder_iff.1 ⟨failure, rfl, noRefusal⟩
            exact ⟨fun fits => folderUnfit (Files.isPathText_parent fits),
              fun fits => absurd fits folderUnfit⟩
          · rintro ⟨_, reached⟩
            apply folder_iff.2
            intro folderFits
            cases reached folderFits
      | none =>
          rw [← Files.breaksOff_writeFile_iff files surroundings.directory destination
            ((written log).flatMap Text.utf8Bytes)]
          unfold Files.BreaksOff
          cases wrote : Files.writeFile files surroundings.directory destination
            ((written log).flatMap Text.utf8Bytes) <;> simp [wrote]

/-- Writing a log ends with a fault that nothing catches: the path of the file is none, or writing is
refused and the message on that is marked up in a faulty way. -/
def WritingBreaksOff (surroundings : Surroundings) (destination : Path) (log : Sarif.Log) : Prop :=
  (∃ failure, (writeLog surroundings destination log).2 = some failure ∧ ¬ failure.IsRefusal) ∨
    ∃ fault markupFault, (writeLog surroundings destination log).2 = some (.refused fault) ∧
      Terminal.printMarkup terminalWidth
        (Text.ofString "Failed to write SARIF report: " ++ fault.message) = .error markupFault

theorem deliver_eq_crash_iff {conversion : Conversion} {prepared : Prepared} :
    (∃ crash, deliver surroundings task conversion prepared = .crash crash) ↔
      ∃ destination, task.destination? surroundings.directory prepared.settings =
          some destination ∧
        WritingBreaksOff surroundings destination prepared.log := by
  unfold deliver WritingBreaksOff
  cases task.destination? surroundings.directory prepared.settings with
  | none => simp
  | some destination =>
      cases delivered : writeLog surroundings destination prepared.log with
      | mk files failed =>
          cases failed with
          | none => simp [delivered]
          | some failure =>
              cases failure with
              | refused fault =>
                  simp [delivered, complain_eq_crash_iff, Files.Failure.IsRefusal]
              | nullCharacter => simp [delivered, Files.Failure.IsRefusal]
              | unencodable fault => simp [delivered, Files.Failure.IsRefusal]

theorem summarize_eq_crash_iff {prepared : Prepared} :
    (∃ crash, summarize surroundings task prepared = .crash crash) ↔
      ∃ part ∈ (Summary.View.ofLog (task.verbosity != .quiet) prepared.log).parts terminalWidth,
        ¬ part.IsSurrogateFree := by
  have unprintable_iff : ∀ parts : List Text,
      (∃ fault, unprintable? parts = some fault) ↔ ∃ part ∈ parts, ¬ part.IsSurrogateFree := by
    intro parts
    unfold unprintable?
    rw [← Option.isSome_iff_exists, List.findSome?_isSome_iff]
    simp only [Option.isSome_iff_ne_none, ne_eq, Text.surrogateRun?_eq_none_iff]
  rw [← unprintable_iff]
  unfold summarize
  rw [Summary.ofJson_toJson]
  cases found : unprintable? ((Summary.View.ofLog (task.verbosity != .quiet) prepared.log).parts
      terminalWidth) <;> simp [found]

/-! ## Whole runs -/

theorem run_of_prepare {prepared : Prepared}
    (isPrepared : task.prepare surroundings = .ok prepared) :
    task.run surroundings =
      match task.job with
      | .convert conversion => deliver surroundings task conversion prepared
      | .summary => summarize surroundings task prepared := by
  cases isJob : task.job <;> simp only [run, isPrepared, isJob]

/-- A summary is written to no file. -/
theorem exists_convert_of_destination {settings : Config.Settings} {destination : Path}
    (isDestination : task.destination? surroundings.directory settings = some destination) :
    ∃ conversion, task.job = .convert conversion := by
  unfold destination? at isDestination
  cases isJob : task.job with
  | summary =>
      rw [isJob] at isDestination
      cases isDestination
  | convert conversion => exact ⟨conversion, rfl⟩

/-! ## Endings -/

/-- An outcome is no error of usage, and an exit code is at most two. -/
def IsRegular : Outcome → Prop
  | .usage _ => False
  | .crash _ => True
  | .ended ending => ending.exitCode ≤ 2

theorem isRegular_complain (files : Files.Tree) (logged message : Text) :
    IsRegular (complain files logged message) := by
  unfold complain
  split
  · trivial
  · exact Nat.le_refl 2

theorem isRegular_deliver (conversion : Conversion) (prepared : Prepared) :
    IsRegular (deliver surroundings task conversion prepared) := by
  have small : conversion.exitCode prepared.log ≤ 2 := by
    unfold Conversion.exitCode
    split <;> decide
  unfold deliver
  dsimp only
  split
  · exact small
  · split
    · exact isRegular_complain _ _ _
    · trivial
    · exact small

theorem isRegular_summarize (prepared : Prepared) :
    IsRegular (summarize surroundings task prepared) := by
  unfold summarize
  split
  · trivial
  · split
    · trivial
    · exact Nat.zero_le 2

theorem isRegular_run : IsRegular (task.run surroundings) := by
  cases isPrepared : task.prepare surroundings with
  | error halt =>
      obtain ⟨fault, fails, _⟩ := prepare_eq_error_iff.1 isPrepared
      rw [run_of_failsWith fails]
      by_cases handled : fault.IsHandled
      · rw [Fault.halt_of_isHandled handled]
        exact isRegular_complain _ _ _
      · obtain ⟨crash, isHalt⟩ := Fault.halt_of_not_isHandled handled
        rw [isHalt]
        trivial
  | ok prepared =>
      rw [run_of_prepare isPrepared]
      split
      · exact isRegular_deliver _ prepared
      · exact isRegular_summarize prepared

/-- A fault that the program looks out for is told as promised, if its message can be printed. -/
theorem ending_of_failsWith {fault : Fault} {ending : Ending}
    (fails : task.FailsWith surroundings fault)
    (ended : task.run surroundings = .ended ending) :
    ending.exitCode = 2 ∧ ending.stdout = [] ∧
      ∃ printed, Terminal.printMarkup terminalWidth fault.message = .ok printed ∧
        ending.stderr = onStderr printed := by
  rw [run_of_failsWith fails] at ended
  by_cases handled : fault.IsHandled
  · rw [Fault.halt_of_isHandled handled] at ended
    replace ended : complain surroundings.files [] fault.message = .ended ending := ended
    unfold complain at ended
    cases isPrinted : Terminal.printMarkup terminalWidth fault.message with
    | error markupFault =>
        rw [isPrinted] at ended
        cases ended
    | ok printed =>
        rw [isPrinted] at ended
        cases ended
        exact ⟨rfl, rfl, printed, rfl, rfl⟩
  · obtain ⟨crash, isHalt⟩ := Fault.halt_of_not_isHandled handled
    rw [isHalt] at ended
    cases ended

end Task

end Command

end Findings
