import Findings.Proofs.Command.Failure
import Findings.Proofs.Command.Values

/-!
Contract: what is promised of every run, and when it is kept.

Owns:
- `Task.KeepsContract`: a run ends with one of three exit codes, and without a log to deliver it ends
  with two, nothing on standard output and the message on standard error;
- `Task.BreaksOff`, the faults that nothing catches, one constructor for each;
- the promise is kept just when none of them is met (`keepsContract_iff`).
-/

set_option autoImplicit false

namespace Findings.Command

namespace Task

variable (task : Task) (surroundings : Surroundings)

/-- What is promised of a run: it comes to its end with one of the exit codes zero, one and two, and
if there is no log to deliver, with two, nothing on standard output and the message on standard
error. -/
def KeepsContract (outcome : Outcome) : Prop :=
  ∃ ending, outcome = .ended ending ∧ ending.exitCode ≤ 2 ∧
    ∀ fault, task.FailsWith surroundings fault →
      ending.exitCode = 2 ∧ ending.stdout = [] ∧
        ∃ printed, Terminal.printMarkup terminalWidth fault.message = .ok printed ∧
          ending.stderr = onStderr printed

/-- The faults that nothing catches. -/
inductive BreaksOff : Prop where
  /-- The configuration file is there and cannot be read, as a directory cannot. -/
  | settingsUnreadable {failure : Files.Failure}
      (unread : Files.readFile surroundings.files surroundings.directory
        (task.settingsFile surroundings) = .error failure)
      (present : ¬ failure.IsAbsence)
  | settingsNotText {bytes : List UInt8} {fault : Text.DecodeFault}
      (found : Files.readFile surroundings.files surroundings.directory
        (task.settingsFile surroundings) = .ok bytes)
      (notText : Text.decodeUtf8 bytes = .error fault)
  | settingsInteger {bytes : List UInt8} {text : Text} {digits : Nat}
      (found : Files.readFile surroundings.files surroundings.directory
        (task.settingsFile surroundings) = .ok bytes)
      (isText : Text.decodeUtf8 bytes = .ok text)
      (excessive : Toml.read (Text.universalNewlines text) = .error (.excessiveInteger digits))
  | inputNoPath {settings : Config.Settings}
      (loaded : task.loadSettings surroundings = .ok settings)
      (fromFile : task.readsStdin = false)
      (noPath : ¬ Files.IsPathText task.input)
  | reportInteger {settings : Config.Settings} {text : Text} {digits : Nat}
      (reads : task.Reads surroundings settings text)
      (excessive : Lint.readReport text = .error (.excessiveInteger digits))
  /-- A text that has a fingerprint holds a surrogate. -/
  | surrogate {settings : Config.Settings} {text : Text} {report : Lint.Report}
      {emission : Sarif.Emission}
      (reads : task.Reads surroundings settings text)
      (isReport : Lint.readReport text = .ok report)
      (fingerprints : settings.fingerprints = true)
      (taken : emission ∈ Sarif.emissions (task.optionsFor surroundings settings) report.results)
      (unencodable : ¬ emission.IsEncodable (task.optionsFor surroundings settings))
  /-- The message on a fault is marked up in a faulty way. -/
  | message {fault : Fault} {markupFault : Terminal.MarkupFault}
      (fails : task.FailsWith surroundings fault)
      (handled : fault.IsHandled)
      (faulty : Terminal.printMarkup terminalWidth fault.message = .error markupFault)
  | destinationNoPath {prepared : Prepared} {destination : Path}
      (isPrepared : task.prepare surroundings = .ok prepared)
      (isDestination : task.destination? surroundings.directory prepared.settings =
        some destination)
      (noPath : ¬ Files.IsPathText destination.toText)
      (reached : Files.IsPathText destination.parent.toText →
        (Files.makeDirectories surroundings.files surroundings.directory
          destination.parent).2 = none)
  | writingMessage {prepared : Prepared} {destination : Path} {fault : Files.Fault}
      {markupFault : Terminal.MarkupFault}
      (isPrepared : task.prepare surroundings = .ok prepared)
      (isDestination : task.destination? surroundings.directory prepared.settings =
        some destination)
      (refused : (writeLog surroundings destination prepared.log).2 = some (.refused fault))
      (faulty : Terminal.printMarkup terminalWidth
        (Text.ofString "Failed to write SARIF report: " ++ fault.message) = .error markupFault)
  /-- A printed part of a summary holds a surrogate. -/
  | summaryUnprintable {prepared : Prepared} {part : Text}
      (isSummary : task.job = .summary)
      (isPrepared : task.prepare surroundings = .ok prepared)
      (shown : part ∈ (Summary.View.ofLog (task.verbosity != .quiet) prepared.log).parts
        terminalWidth)
      (unprintable : ¬ part.IsSurrogateFree)

/-! ## Breaking off -/

variable {task surroundings}

/-- A task breaks off in preparation just with a fault that the program does not look out for. -/
theorem breaksOff_of_unhandled {fault : Fault} (fails : task.FailsWith surroundings fault)
    (unhandled : ¬ fault.IsHandled) : task.BreaksOff surroundings := by
  cases fails with
  | settings unloaded =>
      rcases load_unhandled_iff.1 ⟨_, unloaded, unhandled⟩ with
        ⟨failure, unread, present⟩ | ⟨bytes, found, ⟨fault, notText⟩ |
          ⟨text, digits, isText, excessive⟩⟩
      · exact .settingsUnreadable unread present
      · exact .settingsNotText found notText
      · exact .settingsInteger found isText excessive
  | file loaded unread =>
      obtain ⟨fromFile, noPath⟩ := reportText_unhandled_iff.1 ⟨_, unread, unhandled⟩
      exact .inputNoPath loaded fromFile noPath
  | @report settings text error reads noReport =>
      cases error with
      | report error => exact absurd trivial unhandled
      | excessiveInteger digits => exact .reportInteger reads noReport
  | log reads isReport noLog =>
      obtain ⟨fingerprints, emission, taken, unencodable⟩ :=
        Sarif.exists_ofResults_eq_error_iff.1 ⟨_, noLog⟩
      exact .surrogate reads isReport fingerprints taken unencodable

theorem exists_crash_of_unhandled {fault : Fault} (fails : task.FailsWith surroundings fault)
    (unhandled : ¬ fault.IsHandled) : ∃ crash, task.run surroundings = .crash crash := by
  obtain ⟨crash, isHalt⟩ := Fault.halt_of_not_isHandled unhandled
  refine ⟨crash, ?_⟩
  rw [run_of_failsWith fails, isHalt]
  rfl

theorem exists_crash_of_writing {prepared : Prepared} {destination : Path}
    (isPrepared : task.prepare surroundings = .ok prepared)
    (isDestination : task.destination? surroundings.directory prepared.settings =
      some destination)
    (breaksOff : WritingBreaksOff surroundings destination prepared.log) :
    ∃ crash, task.run surroundings = .crash crash := by
  obtain ⟨conversion, isJob⟩ := exists_convert_of_destination isDestination
  rw [run_of_prepare isPrepared, isJob]
  exact deliver_eq_crash_iff.2 ⟨destination, isDestination, breaksOff⟩

theorem exists_crash_of_breaksOff (breaksOff : task.BreaksOff surroundings) :
    ∃ crash, task.run surroundings = .crash crash := by
  cases breaksOff with
  | settingsUnreadable unread present =>
      obtain ⟨error, unloaded, unhandled⟩ := load_unhandled_iff.2 (.inl ⟨_, unread, present⟩)
      exact exists_crash_of_unhandled (.settings unloaded) unhandled
  | settingsNotText found notText =>
      obtain ⟨error, unloaded, unhandled⟩ :=
        load_unhandled_iff.2 (.inr ⟨_, found, .inl ⟨_, notText⟩⟩)
      exact exists_crash_of_unhandled (.settings unloaded) unhandled
  | settingsInteger found isText excessive =>
      obtain ⟨error, unloaded, unhandled⟩ :=
        load_unhandled_iff.2 (.inr ⟨_, found, .inr ⟨_, _, isText, excessive⟩⟩)
      exact exists_crash_of_unhandled (.settings unloaded) unhandled
  | inputNoPath loaded fromFile noPath =>
      obtain ⟨failure, unread, unhandled⟩ := reportText_unhandled_iff.2 ⟨fromFile, noPath⟩
      exact exists_crash_of_unhandled (.file loaded unread) unhandled
  | reportInteger reads excessive => exact exists_crash_of_unhandled (.report reads excessive) id
  | surrogate reads isReport fingerprints taken unencodable =>
      obtain ⟨fault, noLog⟩ :=
        Sarif.exists_ofResults_eq_error_iff.2 ⟨fingerprints, _, taken, unencodable⟩
      exact exists_crash_of_unhandled (.log reads isReport noLog) id
  | message fails handled faulty =>
      rw [run_of_failsWith fails, Fault.halt_of_isHandled handled]
      exact complain_eq_crash_iff.2 ⟨_, faulty⟩
  | destinationNoPath isPrepared isDestination noPath reached =>
      exact exists_crash_of_writing isPrepared isDestination
        (.inl (writeLog_breaksOff_iff.2 ⟨noPath, reached⟩))
  | writingMessage isPrepared isDestination refused faulty =>
      exact exists_crash_of_writing isPrepared isDestination (.inr ⟨_, _, refused, faulty⟩)
  | summaryUnprintable isSummary isPrepared shown unprintable =>
      rw [run_of_prepare isPrepared, isSummary]
      exact summarize_eq_crash_iff.2 ⟨_, shown, unprintable⟩

theorem breaksOff_of_crash {crash : Crash} (crashed : task.run surroundings = .crash crash) :
    task.BreaksOff surroundings := by
  cases isPrepared : task.prepare surroundings with
  | error halt =>
      obtain ⟨fault, fails, _⟩ := prepare_eq_error_iff.1 isPrepared
      by_cases handled : fault.IsHandled
      · rw [run_of_failsWith fails, Fault.halt_of_isHandled handled] at crashed
        obtain ⟨markupFault, faulty⟩ := complain_eq_crash_iff.1 ⟨crash, crashed⟩
        exact .message fails handled faulty
      · exact breaksOff_of_unhandled fails handled
  | ok prepared =>
      rw [run_of_prepare isPrepared] at crashed
      cases isJob : task.job with
      | summary =>
          rw [isJob] at crashed
          obtain ⟨part, shown, unprintable⟩ := summarize_eq_crash_iff.1 ⟨crash, crashed⟩
          exact .summaryUnprintable isJob isPrepared shown unprintable
      | convert conversion =>
          rw [isJob] at crashed
          obtain ⟨destination, isDestination, unwritten | ⟨fault, markupFault, refused, faulty⟩⟩ :=
            deliver_eq_crash_iff.1 ⟨crash, crashed⟩
          · obtain ⟨noPath, reached⟩ := writeLog_breaksOff_iff.1 unwritten
            exact .destinationNoPath isPrepared isDestination noPath reached
          · exact .writingMessage isPrepared isDestination refused faulty

/-! ## The promise -/

theorem keepsContract_run_iff :
    task.KeepsContract surroundings (task.run surroundings) ↔ ¬ task.BreaksOff surroundings := by
  constructor
  · rintro ⟨ending, ended, _⟩ breaksOff
    obtain ⟨crash, crashed⟩ := exists_crash_of_breaksOff breaksOff
    rw [ended] at crashed
    cases crashed
  · intro holds
    have regular : IsRegular (task.run surroundings) := isRegular_run
    cases ended : task.run surroundings with
    | usage error =>
        rw [ended] at regular
        exact regular.elim
    | crash crash => exact absurd (breaksOff_of_crash ended) holds
    | ended ending =>
        rw [ended] at regular
        exact ⟨ending, rfl, regular, fun fault fails => ending_of_failsWith fails ended⟩

end Task

/-! ## Command lines -/

/-- **When the promise is kept.**  A command line that asks for a conversion or a summary ends as
promised, whatever the files and standard input hold, just when every path that its options name can
be one and none of the faults is met that nothing catches. -/
theorem keepsContract_iff {arguments : List Text} {surroundings : Surroundings} {task : Task}
    (asks : (Asked.ofArguments arguments).request = .ok (.run task))
    (proper : ∀ error, run arguments surroundings ≠ .usage error) :
    task.KeepsContract surroundings (run arguments surroundings) ↔
      ¬ (Asked.ofArguments arguments).NamesNoPath ∧ ¬ task.BreaksOff surroundings := by
  unfold run at proper ⊢
  rcases (Asked.ofArguments arguments).run_cases surroundings with
    ⟨allPaths, proceeds⟩ | ⟨error, faulty⟩ | ⟨noPath, crash, crashed⟩
  · rw [proceeds, asks]
    show task.KeepsContract surroundings (task.run surroundings) ↔ _
    rw [Task.keepsContract_run_iff]
    exact ⟨fun holds => ⟨allPaths, holds⟩, And.right⟩
  · exact absurd faulty (proper error)
  · constructor
    · rintro ⟨ending, ended, _⟩
      rw [crashed] at ended
      cases ended
    · rintro ⟨allPaths, _⟩
      exact absurd noPath allPaths

/-! ## A project with a configuration file that cannot be read -/

/-- The conversion of standard input. -/
def sampleConversion : Task where
  job := .convert {}
  input := "-"

/-- The summary of standard input. -/
def sampleSummary : Task where
  job := .summary
  input := "-"

/-- An empty report, and a project in which there is something in the place of the configuration
file. -/
def projectWith (node : Files.Node) : Surroundings where
  files := [([Text.ofString "project"], .directory),
    ([Text.ofString "project", Config.fileName], node)]
  directory := [Text.ofString "project"]
  input := "[]"

theorem keepsContract_iff_sample :
    (Asked.ofArguments ["summary", "-"]).request = .ok (.run sampleSummary) ∧
      (∀ error, run ["summary", "-"] (projectWith .directory) ≠ .usage error) ∧
      ¬ sampleSummary.KeepsContract (projectWith .directory)
        (run ["summary", "-"] (projectWith .directory)) := by
  have asks : (Asked.ofArguments ["summary", "-"]).request = .ok (.run sampleSummary) := rfl
  have crashed : run ["summary", "-"] (projectWith .directory) =
      .crash (.unreadable (.refused
        ⟨.isDirectory, ⟨.slash, [Text.ofString "project", Config.fileName]⟩⟩)) := rfl
  have proper : ∀ error, run ["summary", "-"] (projectWith .directory) ≠ .usage error := by
    intro error faulty
    rw [crashed] at faulty
    cases faulty
  refine ⟨asks, proper, fun keeps => ?_⟩
  obtain ⟨_, holds⟩ := (keepsContract_iff asks proper).1 keeps
  exact holds (.settingsUnreadable rfl id)

theorem decodeUtf8_invalid_start :
    Text.decodeUtf8 [0xFF] = .error ⟨.invalidStart, 0, 1, 0xFF⟩ := by
  unfold Text.decodeUtf8 Text.decodeUnits
  rw [Text.decodeUnitsAfter, Text.decodeUnitsAfter.eq_def]
  rfl

/-- The promise does not hold of every run: it is broken where the configuration file is no text. -/
theorem contract_broken_on_bytes :
    (Asked.ofArguments ["convert", "-"]).request = .ok (.run sampleConversion) ∧
      (∀ error, run ["convert", "-"] (projectWith (.file [0xFF])) ≠ .usage error) ∧
      ¬ sampleConversion.KeepsContract (projectWith (.file [0xFF]))
        (run ["convert", "-"] (projectWith (.file [0xFF]))) := by
  have isRun : run ["convert", "-"] (projectWith (.file [0xFF])) =
      sampleConversion.run (projectWith (.file [0xFF])) := rfl
  have breaksOff : sampleConversion.BreaksOff (projectWith (.file [0xFF])) :=
    .settingsNotText rfl decodeUtf8_invalid_start
  obtain ⟨crash, crashed⟩ := Task.exists_crash_of_breaksOff breaksOff
  rw [isRun, crashed]
  refine ⟨rfl, ?_, ?_⟩
  · intro error faulty
    cases faulty
  · rintro ⟨ending, ended, _⟩
    cases ended

end Findings.Command
