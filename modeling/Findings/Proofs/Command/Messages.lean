import Findings.Proofs.Command.InputChannel
import Findings.Proofs.Config.Validation
import Findings.Proofs.Files.Refusals
import Findings.Proofs.Terminal.Unmarked

/-!
Contract: what standard error shows of the messages that a run ends with.

Owns:
- `Task.Reports`, the messages on a configuration, a report and the file of a log, which are
  printable but for the path of the configuration file;
- `Ending.Shows`, an ending with exit code two that shows a message but for blanks;
- every ending with exit code two is due to a message, and a message without markup is shown
  (`shows_reported`);
- the message on an input that is no file holds the input, if paths and quotes leave it as it is.

Does not own: what a terminal makes of markup in a message.
-/

set_option autoImplicit false

namespace Findings

/-! ## Printable messages -/

open Text (IsPrintable isPrintable_literal isPrintable_quoted)

theorem Files.Fault.isPrintable_message (fault : Files.Fault) : fault.message.IsPrintable := by
  have ofCause : fault.cause.message.IsPrintable := by
    cases fault.cause <;> exact isPrintable_literal (by decide)
  have opening : IsPrintable "[Errno " := isPrintable_literal (by decide)
  refine IsPrintable.append (IsPrintable.append_literal ?_ (by decide)) (isPrintable_quoted _)
  exact ((opening.append_ofNat _).append_literal (by decide)).append ofCause

namespace Toml

theorem Key.isPrintable_shown (key : Key) : key.shown.IsPrintable := by
  have opening : IsPrintable "(" := isPrintable_literal (by decide)
  have names : ∀ name ∈ key.map Text.quoted, name.IsPrintable := by
    intro name member
    obtain ⟨source, _, rfl⟩ := List.mem_map.1 member
    exact isPrintable_quoted source
  unfold Key.shown
  split
  · exact (opening.append (isPrintable_quoted _)).append_literal (by decide)
  · have comma : IsPrintable ", " := isPrintable_literal (by decide)
    exact (opening.append (Text.isPrintable_join comma names)).append_literal (by decide)

theorem Fault.isPrintable_message (fault : Fault) : fault.message.IsPrintable := by
  cases fault
  case declaredTwice key =>
    refine IsPrintable.append_literal ?_ (by decide)
    exact IsPrintable.append (isPrintable_literal (by decide)) key.isPrintable_shown
  case immutableNamespace key | redefinedNamespace key =>
    exact IsPrintable.append (isPrintable_literal (by decide)) key.isPrintable_shown
  case duplicateInlineKey | illegalCharacter | invalidCharacter | expectedDelimiter =>
    exact IsPrintable.append (isPrintable_literal (by decide)) (isPrintable_quoted _)
  all_goals exact isPrintable_literal (by decide)

theorem isPrintable_faultMessage (fault : Fault) (place : Option Text.Place) :
    (faultMessage fault place).IsPrintable := by
  have isPlace : (shownPlace place).IsPrintable := by
    cases place with
    | none => exact isPrintable_literal (by decide)
    | some place =>
        refine IsPrintable.append_ofNat (IsPrintable.append_literal ?_ (by decide)) _
        exact (isPrintable_literal (by decide)).append_ofNat _
  exact ((fault.isPrintable_message.append_literal (by decide)).append isPlace).append_literal
    (by decide)

end Toml

theorem Lint.ReportError.isPrintable_message (error : Lint.ReportError) :
    error.message.IsPrintable := by
  cases error with
  | malformed fault place =>
      have ofFault : fault.message.IsPrintable := by
        cases fault with
        | string fault => cases fault <;> exact isPrintable_literal (by decide)
        | _ => exact isPrintable_literal (by decide)
      refine IsPrintable.append (isPrintable_literal (by decide)) ?_
      refine IsPrintable.append_literal (IsPrintable.append_ofNat ?_ _) (by decide)
      refine IsPrintable.append_literal (IsPrintable.append_ofNat ?_ _) (by decide)
      refine IsPrintable.append_literal (IsPrintable.append_ofNat ?_ _) (by decide)
      exact ofFault.append_literal (by decide)
  | resultsNotList => exact isPrintable_literal (by decide)
  | neitherArrayNorObject => exact isPrintable_literal (by decide)

namespace Config

variable {tree : Files.Tree} {directory : Files.Location} {project : Path}

/-- What is told of a configuration: its file is no document, or a setting has a value of the wrong
kind. -/
theorem load_eq_config_cases {error : ConfigError}
    (unloaded : load tree directory project = .error (.config error)) :
    (∃ fault place, error = .notToml (fileOf project) fault place) ∨
      ∃ setting : Setting, error = .setting setting.error := by
  unfold load at unloaded
  split at unloaded
  case h_1 bytes _ =>
    unfold Settings.ofBytes at unloaded
    split at unloaded
    case h_1 => cases unloaded
    case h_2 =>
      split at unloaded
      case h_1 readError _ =>
        cases readError with
        | malformed fault place =>
            cases unloaded
            exact .inl ⟨fault, place, rfl⟩
        | excessiveInteger => cases unloaded
      case h_2 document _ =>
        split at unloaded
        case h_1 settingError refused =>
          cases unloaded
          obtain ⟨setting, _, rfl⟩ := ofTable_eq_error_iff.1 refused
          exact .inr ⟨setting, rfl⟩
        case h_2 => cases unloaded
  all_goals cases unloaded

/-- A message on a configuration shows nothing without quotes but the path of its file. -/
theorem isPrintable_message_of_load {error : ConfigError}
    (unloaded : load tree directory project = .error (.config error))
    (printable : (fileOf project).toText.IsPrintable) : error.message.IsPrintable := by
  rcases load_eq_config_cases unloaded with ⟨fault, place, rfl⟩ | ⟨setting, rfl⟩
  · have before : IsPrintable "Invalid TOML in " := isPrintable_literal (by decide)
    exact ((before.append printable).append_literal (by decide)).append
      (Toml.isPrintable_faultMessage fault place)
  · rw [ConfigError.message, setting.message_error]
    have opening : IsPrintable "`tool.lintsarif." := isPrintable_literal (by decide)
    cases setting
    all_goals
      refine IsPrintable.append_literal (IsPrintable.append_literal ?_ (by decide)) (by decide)
      exact opening.append_literal (by decide)

end Config

/-! ## Quotes -/

namespace Text

/-- A text that holds neither a backslash nor both kinds of quotes is shown as it is in quotes. -/
theorem infix_quoted {text : Text} (printable : text.IsPrintable) (noBackslash : backslash ∉ text)
    (oneKind : ¬ (singleQuote ∈ text ∧ doubleQuote ∈ text)) : text <:+: quoted text := by
  have noQuote : quoteFor text ∉ text := by
    unfold quoteFor
    split
    case isTrue chosen =>
      simpa using (Bool.and_eq_true_iff.1 chosen).2
    case isFalse chosen =>
      intro hasSingle
      apply chosen
      simpa [hasSingle] using fun hasDouble => oneKind ⟨hasSingle, hasDouble⟩
  have shownAsItIs : ∀ c ∈ text, quotedPoint (quoteFor text) c = [c] := by
    intro c member
    have isPrintable := printable c member
    have noMark : ¬ (decide (c = quoteFor text) || decide (c = backslash)) = true := by
      simp only [Bool.or_eq_true, decide_eq_true_eq]
      rintro (rfl | rfl)
      · exact noQuote member
      · exact noBackslash member
    have noControl : ¬ (c.val = 0x0A ∨ c.val = 0x0D ∨ c.val = 0x09) := by
      intro control
      have listed : (0x0, 0x1F) ∈ unprintableRanges := by decide
      rw [CodePoint.isPrintable_eq_false listed (by omega) (by omega)] at isPrintable
      cases isPrintable
    obtain ⟨noFeed, noReturn, noTab⟩ := by simpa only [not_or] using noControl
    unfold quotedPoint
    rw [if_neg noMark, if_neg noFeed, if_neg noReturn, if_neg noTab, if_pos isPrintable]
  unfold quoted
  rw [List.flatMap_congr shownAsItIs, List.flatMap_singleton']
  exact List.infix_append [quoteFor text] text [quoteFor text]

end Text

namespace Command

/-! ## What is told -/

/-- An ending that tells a message: with exit code two, nothing on standard output and, on standard
error, the message but for blanks.  Columnless code points can be missing from a message that is not
firm. -/
structure Ending.Shows (ending : Ending) (message : Text) : Prop where
  exitCode : ending.exitCode = 2
  stdout : ending.stdout = []
  whole : Terminal.IsFirm message → ending.stderr.visible = message.visible
  broad : Terminal.broad ending.stderr = Terminal.broad message

theorem exists_shows_of_complain (files : Files.Tree) {message : Text}
    (unmarked : Terminal.IsUnmarked message) (printable : message.IsPrintable) :
    ∃ ending, complain files [] message = .ended ending ∧ ending.Shows message := by
  have wide : 2 ≤ terminalWidth := by decide
  have isShown : onStderr ([] ++ Terminal.print terminalWidth message) =
      Terminal.print terminalWidth message :=
    Text.spellSurrogates_of_isSurrogateFree (Terminal.isSurrogateFree_print wide printable)
  unfold complain
  rw [Terminal.printMarkup_of_isUnmarked terminalWidth unmarked printable]
  dsimp only
  rw [isShown]
  exact ⟨_, rfl, rfl, rfl, Terminal.visible_print wide printable,
    Terminal.broad_print wide printable⟩

namespace Task

variable (task : Task) (surroundings : Surroundings)

/-- The messages on what keeps a task from its end: faulty settings, a report in no file, a text that
is no report, and a log that is refused. -/
inductive Reports : Text → Prop where
  | configuration {error : Config.ConfigError}
      (unloaded : Config.load surroundings.files surroundings.directory
        (task.project surroundings.directory) = .error (.config error)) :
      Reports (Text.ofString "Invalid configuration: " ++ error.message)
  | file {settings : Config.Settings} {fault : Files.Fault}
      (loaded : task.loadSettings surroundings = .ok settings)
      (unread : task.reportText surroundings = .error (.refused fault)) :
      Reports (Text.ofString "Invalid ESLint report: " ++ fault.message)
  | report {settings : Config.Settings} {text : Text} {error : Lint.ReportError}
      (reads : task.Reads surroundings settings text)
      (noReport : Lint.readReport text = .error (.report error)) :
      Reports (Text.ofString "Invalid ESLint report: " ++ error.message)
  | output {prepared : Prepared} {destination : Path} {fault : Files.Fault}
      (isPrepared : task.prepare surroundings = .ok prepared)
      (somewhere : task.destination? surroundings.directory prepared.settings = some destination)
      (refused : (writeLog surroundings destination prepared.log).2 = some (.refused fault)) :
      Reports (Text.ofString "Failed to write SARIF report: " ++ fault.message)

variable {task surroundings} {message : Text}

/-- All that a message shows without quotes is the path of the configuration file. -/
theorem Reports.isPrintable (reports : task.Reports surroundings message)
    (printable : (task.settingsFile surroundings).toText.IsPrintable) : message.IsPrintable := by
  cases reports with
  | configuration unloaded =>
      exact IsPrintable.append (isPrintable_literal (by decide))
        (Config.isPrintable_message_of_load unloaded printable)
  | file | output =>
      exact IsPrintable.append (isPrintable_literal (by decide)) (Files.Fault.isPrintable_message _)
  | report =>
      exact IsPrintable.append (isPrintable_literal (by decide))
        (Lint.ReportError.isPrintable_message _)

/-- The records of a task are for a verbose program. -/
theorem written_records_of_prepare {prepared : Prepared} (normal : task.verbosity = .normal)
    (isPrepared : task.prepare surroundings = .ok prepared) :
    Logging.written task.verbosity prepared.records = [] := by
  unfold prepare at isPrepared
  simp only [bind_eq_ok_iff] at isPrepared
  obtain ⟨settings, _, text, _, report, _, log, _, returned⟩ := isPrepared
  cases returned
  have areDebug : ∀ record ∈ readingRecords (Lint.skippedIn text) report ++
      buildingRecords (settings.options (task.base surroundings.directory settings).toText)
        report log, record.level = .debug := by
    intro record member
    unfold readingRecords buildingRecords at member
    simp only [List.mem_append, List.mem_replicate, List.mem_map, List.mem_singleton] at member
    rcases member with (⟨_, rfl⟩ | rfl) | ⟨_, _, rfl⟩ | rfl <;> rfl
  unfold Logging.written
  rw [normal, List.filter_eq_nil_iff.2 fun record member => ?_, List.flatMap_nil]
  unfold Logging.Verbosity.admits
  rw [areDebug record member]
  decide

theorem Reports.exists_run_eq (reports : task.Reports surroundings message)
    (normal : task.verbosity = .normal) :
    ∃ files, task.run surroundings = complain files [] message := by
  cases reports with
  | configuration unloaded => exact ⟨_, run_of_failsWith (.settings unloaded)⟩
  | file loaded unread => exact ⟨_, run_of_failsWith (.file loaded unread)⟩
  | report reads noReport => exact ⟨_, run_of_failsWith (.report reads noReport)⟩
  | @output prepared destination fault isPrepared somewhere refused =>
      obtain ⟨conversion, isJob⟩ := exists_convert_of_destination somewhere
      cases attempt : writeLog surroundings destination prepared.log with
      | mk files failed =>
          rw [attempt] at refused
          cases refused
          refine ⟨files, ?_⟩
          rw [run_of_prepare isPrepared, isJob]
          simp only [deliver, somewhere, attempt, written_records_of_prepare normal isPrepared]

/-! ## Why a run ends with exit code two -/

/-- A fault that ends a run otherwise than by breaking it off has a message. -/
theorem FailsWith.exists_reports {fault : Fault} (fails : task.FailsWith surroundings fault)
    (handled : fault.IsHandled) : ∃ message, task.Reports surroundings message := by
  cases fails with
  | @settings error unloaded =>
      cases error with
      | config error => exact ⟨_, .configuration unloaded⟩
      | notText | excessiveInteger | unreadable => cases handled
  | @file settings failure loaded unread =>
      cases failure with
      | refused fault => exact ⟨_, .file loaded unread⟩
      | nullCharacter | unencodable => cases handled
  | @report settings text error reads noReport =>
      cases error with
      | report error => exact ⟨_, .report reads noReport⟩
      | excessiveInteger => cases handled
  | log => cases handled

/-- The delivery of a log ends with exit code two only if the log is refused. -/
theorem exists_refused_of_deliver {conversion : Conversion} {prepared : Prepared} {ending : Ending}
    (ended : deliver surroundings task conversion prepared = .ended ending)
    (isTwo : ending.exitCode = 2) :
    ∃ destination fault,
      task.destination? surroundings.directory prepared.settings = some destination ∧
        (writeLog surroundings destination prepared.log).2 = some (.refused fault) := by
  have otherwise : conversion.exitCode prepared.log ≠ 2 :=
    Nat.ne_of_lt (Nat.lt_succ_of_le (exitCode_le_one conversion prepared.log))
  cases somewhere : task.destination? surroundings.directory prepared.settings with
  | none =>
      rw [deliver_of_nowhere somewhere] at ended
      cases ended
      exact absurd isTwo otherwise
  | some destination =>
      cases attempt : writeLog surroundings destination prepared.log with
      | mk files failed =>
          cases failed with
          | none =>
              rw [deliver_of_writeLog somewhere attempt] at ended
              cases ended
              exact absurd isTwo otherwise
          | some failure =>
              cases failure with
              | refused fault => exact ⟨destination, fault, rfl, by rw [attempt]⟩
              | nullCharacter | unencodable =>
                  simp only [deliver, somewhere, attempt] at ended
                  cases ended

theorem exitCode_of_summarize {prepared : Prepared} {ending : Ending}
    (ended : summarize surroundings task prepared = .ended ending) : ending.exitCode = 0 := by
  unfold summarize at ended
  split at ended
  · cases ended
  · split at ended <;> cases ended
    rfl

/-- A run that ends with exit code two has a message. -/
theorem exists_reports_of_exitCode {ending : Ending} (ended : task.run surroundings = .ended ending)
    (isTwo : ending.exitCode = 2) : ∃ message, task.Reports surroundings message := by
  cases isPrepared : task.prepare surroundings with
  | error halt =>
      obtain ⟨fault, fails, _⟩ := prepare_eq_error_iff.1 isPrepared
      refine fails.exists_reports ?_
      by_contra unhandled
      obtain ⟨crash, isHalt⟩ := Fault.halt_of_not_isHandled unhandled
      rw [run_of_failsWith fails, isHalt] at ended
      cases ended
  | ok prepared =>
      rw [run_of_prepare isPrepared] at ended
      cases isJob : task.job with
      | convert conversion =>
          rw [isJob] at ended
          obtain ⟨destination, fault, somewhere, refused⟩ := exists_refused_of_deliver ended isTwo
          exact ⟨_, .output isPrepared somewhere refused⟩
      | summary =>
          rw [isJob] at ended
          rw [exitCode_of_summarize ended] at isTwo
          cases isTwo

/-! ## Inputs that are no files -/

/-- An input that cannot be read is refused under its own path. -/
theorem exists_refused_of_unread (fromFile : task.readsStdin = false)
    (fits : Files.IsPathText task.input)
    (noFile : ∀ bytes, Files.readFile surroundings.files surroundings.directory
      (Path.ofText task.input) ≠ .ok bytes) :
    ∃ cause, task.reportText surroundings = .error (.refused ⟨cause, Path.ofText task.input⟩) := by
  unfold reportText
  rw [fromFile, if_neg Bool.false_ne_true]
  cases attempt : Files.readFile surroundings.files surroundings.directory
      (Path.ofText task.input) with
  | ok bytes => exact absurd attempt (noFile bytes)
  | error failure =>
      have isRefusal := Files.isRefusal_of_isPathText (Files.breaksOff_readFile_iff _ _ _)
        ((Files.isPathText_ofText_iff task.input).2 fits) attempt
      cases failure with
      | refused fault =>
          rw [← Files.path_of_readFile attempt]
          exact ⟨fault.cause, rfl⟩
      | nullCharacter | unencodable => cases isRefusal

end Task

theorem isPathText_of_isPrintable {text : Text} (printable : text.IsPrintable) :
    Files.IsPathText text := by
  intro c member
  refine ⟨fun null => ?_, fun surrogate => ?_⟩
  · have listed : (0x0, 0x1F) ∈ unprintableRanges := by decide
    have unprintable := CodePoint.isPrintable_eq_false listed (c := c) (by omega) (by omega)
    rw [printable c member] at unprintable
    cases unprintable
  · rw [printable.isSurrogateFree c member] at surrogate
    cases surrogate

/-- A path that is shown as it is spelled: it is written as paths are, and quotes escape nothing in
it. -/
structure IsPlainlySpelled (text : Text) : Prop where
  isPath : (Path.ofText text).toText = text
  noBackslash : Text.backslash ∉ text
  oneKind : ¬ (Text.singleQuote ∈ text ∧ Text.doubleQuote ∈ text)

/-- The message on an input that cannot be read. -/
def unreadMessage (cause : Files.Cause) (input : Text) : Text :=
  Text.ofString "Invalid ESLint report: " ++ Files.Fault.message ⟨cause, Path.ofText input⟩

theorem infix_unreadMessage (cause : Files.Cause) {input : Text} (printable : input.IsPrintable)
    (plain : IsPlainlySpelled input) : input <:+: unreadMessage cause input := by
  have inQuotes := Text.infix_quoted printable plain.noBackslash plain.oneKind
  unfold unreadMessage Files.Fault.message
  rw [plain.isPath, ← List.append_assoc]
  exact inQuotes.trans (List.suffix_append _ _).isInfix

/-! ## Runs -/

/-- **What standard error tells.**  A run that ends with exit code two has a message, on its
configuration, on its report or on the file of its log.  Every such message without markup is shown,
as a whole if it is firm.  An input that is no file has a message, which holds the input if that is
plainly spelled. -/
theorem shows_reported {arguments : List Text} {surroundings : Surroundings} {task : Task}
    (asks : (Asked.ofArguments arguments).request = .ok (.run task))
    (proper : ∀ error, run arguments surroundings ≠ .usage error)
    (fits : ¬ (Asked.ofArguments arguments).NamesNoPath) (normal : task.verbosity = .normal)
    (printable : (task.settingsFile surroundings).toText.IsPrintable) :
    (∀ ending, run arguments surroundings = .ended ending → ending.exitCode = 2 →
      ∃ message, task.Reports surroundings message) ∧
    (∀ message, task.Reports surroundings message → Terminal.IsUnmarked message →
      ∃ ending, run arguments surroundings = .ended ending ∧ ending.Shows message) ∧
    ∀ settings, task.loadSettings surroundings = .ok settings → task.readsStdin = false →
      task.input.IsPrintable →
      (∀ bytes, Files.readFile surroundings.files surroundings.directory
        (Path.ofText task.input) ≠ .ok bytes) →
      ∃ cause, task.Reports surroundings (unreadMessage cause task.input) ∧
        (IsPlainlySpelled task.input → task.input <:+: unreadMessage cause task.input) := by
  have runs : run arguments surroundings = task.run surroundings := by
    rcases (Asked.ofArguments arguments).run_cases surroundings with
      ⟨_, isRun⟩ | ⟨error, faulty⟩ | ⟨noPath, _⟩
    · rw [asks] at isRun
      exact isRun
    · exact absurd faulty (proper error)
    · exact absurd noPath fits
  rw [runs]
  refine ⟨fun ending => Task.exists_reports_of_exitCode, fun message reports unmarked => ?told,
    fun settings loaded fromFile inputPrintable noFile => ?missing⟩
  case told =>
    obtain ⟨files, isComplaint⟩ := reports.exists_run_eq normal
    rw [isComplaint]
    exact exists_shows_of_complain files unmarked (reports.isPrintable printable)
  case missing =>
    obtain ⟨cause, unread⟩ := Task.exists_refused_of_unread fromFile
      (isPathText_of_isPrintable inputPrintable) noFile
    exact ⟨cause, .file loaded unread, infix_unreadMessage cause inputPrintable⟩

/-- An empty report, and a project that holds nothing. -/
def emptyProject : Surroundings where
  files := [([Text.ofString "project"], .directory)]
  directory := [Text.ofString "project"]
  input := "[]"

/-- A summary of a report that is not there. -/
def sampleReport : Task := sampleSummary.withInput "no such [Report].json"

/-- Brackets around anything but a tag are shown. -/
theorem shows_reported_sample :
    ∃ cause, sampleReport.Reports emptyProject (unreadMessage cause "no such [Report].json") ∧
      Text.ofString "no such [Report].json" <:+: unreadMessage cause "no such [Report].json" ∧
      ∃ ending, run ["summary", "no such [Report].json"] emptyProject = .ended ending ∧
        ending.exitCode = 2 ∧
        ending.stderr.visible = (unreadMessage cause "no such [Report].json").visible := by
  have asks : (Asked.ofArguments ["summary", "no such [Report].json"]).request =
      .ok (.run sampleReport) := rfl
  have runs : run ["summary", "no such [Report].json"] emptyProject =
      complain emptyProject.files [] (unreadMessage .missing "no such [Report].json") := rfl
  have proper : ∀ error, run ["summary", "no such [Report].json"] emptyProject ≠ .usage error := by
    intro error faulty
    rw [runs, complain] at faulty
    split at faulty <;> cases faulty
  have fits : ¬ (Asked.ofArguments ["summary", "no such [Report].json"]).NamesNoPath := by
    rintro ⟨option, member, _⟩
    cases member
  have printable : (sampleReport.settingsFile emptyProject).toText.IsPrintable := by decide
  have noFile : ∀ bytes, Files.readFile emptyProject.files emptyProject.directory
      (Path.ofText "no such [Report].json") ≠ .ok bytes := by
    intro bytes found
    cases found
  obtain ⟨_, told, missing⟩ := shows_reported asks proper fits rfl printable
  obtain ⟨cause, reports, contains⟩ := missing {} rfl rfl (by decide) noFile
  have unmarked : Terminal.IsUnmarked (unreadMessage cause "no such [Report].json") ∧
      Terminal.IsFirm (unreadMessage cause "no such [Report].json") := by
    cases cause <;> decide +kernel
  obtain ⟨ending, ended, shows⟩ := told _ reports unmarked.1
  exact ⟨cause, reports, contains ⟨by decide, by decide, by decide⟩, ending, ended, shows.exitCode,
    shows.whole unmarked.2⟩

/-- A name with an accent in front of the blank at which the message on it is broken. -/
def accentedName : Text :=
  Text.ofString "漢漢" ++ Text.replicate 95 'a' ++ Text.ofString "\u0301 z"

set_option maxRecDepth 1000 in
/-- An input that is not there can be told otherwise, or not at all.  Two inputs are so by design:
` - ` stands for standard input, since the blanks around a hyphen do not count, and a message does not
hold `./absent`, since it tells paths as they are normalised.  The others are not: `[b].json` loses its
tag, since messages are taken for marked up, and the accented name the accent at the end of a line,
which the layout cuts off. -/
theorem messages_respell_inputs :
    (∀ input ∈ [Text.ofString " - ", "./absent", "[b].json", accentedName],
      input.IsPrintable ∧ Files.readFile emptyProject.files emptyProject.directory
        (Path.ofText input) = .error (.refused ⟨.missing, Path.ofText input⟩)) ∧
    (∃ ending, run ["convert", " - "] emptyProject = .ended ending ∧ ending.exitCode = 0) ∧
    (∃ ending, run ["convert", "./absent"] emptyProject = .ended ending ∧ ending.exitCode = 2 ∧
      ¬ Text.ofString "./absent" <:+: ending.stderr.visible) ∧
    ∀ input ∈ [Text.ofString "[b].json", accentedName],
      ∃ ending, run ["convert", input] emptyProject = .ended ending ∧ ending.exitCode = 2 ∧
        ending.stderr.visible ≠ (unreadMessage .missing input).visible := by
  have missing : ∀ {input printed : Text},
      run ["convert", input] emptyProject =
        complain emptyProject.files [] (unreadMessage .missing input) →
      Terminal.printMarkup terminalWidth (unreadMessage .missing input) = .ok printed →
      ∃ ending, run ["convert", input] emptyProject = .ended ending ∧ ending.exitCode = 2 ∧
        ending.stderr = onStderr printed := by
    intro input printed isComplaint isPrinted
    rw [isComplaint, complain, isPrinted]
    exact ⟨_, rfl, rfl, rfl⟩
  have isReport : Lint.readReport "[]" = .ok { results := [] } :=
    eq_ok_of_toOption (by decide +kernel)
  have isPrepared := @Task.prepare_of_reads (sampleConversion.withInput " - ") emptyProject {} "[]"
    _ _ ⟨rfl, rfl⟩ isReport rfl
  have converts : run ["convert", " - "] emptyProject =
      deliver emptyProject (sampleConversion.withInput " - ") {} _ :=
    Task.run_of_prepare isPrepared
  rw [Task.deliver_of_nowhere rfl] at converts
  obtain ⟨ending, ended, isTwo, isShown⟩ := @missing "./absent"
    "Invalid ESLint report: [Errno 2] No such file or directory: \x27absent\x27\n" rfl
    (eq_ok_of_toOption (by decide +kernel))
  obtain ⟨endingTagged, endedTagged, isTwoTagged, isShownTagged⟩ := @missing "[b].json"
    "Invalid ESLint report: [Errno 2] No such file or directory: \x27.json\x27\n" rfl
    (eq_ok_of_toOption (by decide +kernel))
  obtain ⟨endingAccented, endedAccented, isTwoAccented, isShownAccented⟩ := @missing accentedName _
    rfl (Terminal.printMarkup_of_isUnmarked terminalWidth (by decide +kernel) (by decide +kernel))
  simp only [List.forall_mem_cons]
  refine ⟨⟨⟨by decide, rfl⟩, ⟨by decide, rfl⟩, ⟨by decide, rfl⟩, ⟨by decide +kernel, rfl⟩, by simp⟩,
    ⟨_, converts, rfl⟩, ⟨ending, ended, isTwo, ?notHeld⟩,
    ⟨endingTagged, endedTagged, isTwoTagged, ?noTag⟩,
    ⟨endingAccented, endedAccented, isTwoAccented, ?noAccent⟩, by simp⟩
  case notHeld =>
    rw [isShown]
    decide +kernel
  case noTag =>
    rw [isShownTagged]
    decide +kernel
  case noAccent =>
    rw [isShownAccented]
    decide +kernel

end Command

end Findings
