import Findings.Command.Request
import Findings.Config.Load
import Findings.Lint.Reader
import Findings.Sarif.Encoding
import Findings.Terminal.Markup

/-!
Contract: what the program does.

Owns:
- the order of work: settings, report, log, and then the file, the output or the summary;
- the outcome of a run, and the cases in which the program breaks off.

A run is a function of the request and of the surroundings: the tree of files, the working directory
and standard input.  Its outcome holds the tree afterwards.
-/

set_option autoImplicit false

namespace Findings.Command

/-- What a run can read. -/
structure Surroundings where
  files : Files.Tree
  directory : Files.Location
  input : Text

/-- A fault that ends the program without a message of its own. -/
inductive Crash where
  | settingsNotText (fault : Text.DecodeFault)
  | excessiveInteger (digits : Nat)
  | unreadable (failure : Files.Failure)
  | unencodable (fault : Text.EncodeFault)
  | unprintable (fault : Text.EncodeFault)
  | markup (fault : Terminal.MarkupFault)
  | access (fault : Json.AccessFault)

def Crash.message : Crash → Text
  | .settingsNotText fault => fault.message
  | .excessiveInteger digits => Numeral.excessMessage digits
  | .unreadable failure => failure.message
  | .unencodable fault => fault.message
  | .unprintable fault =>
      fault.message ++ Text.ofString
        "\n*** You may need to add PYTHONIOENCODING=utf-8 to your environment ***"
  | .markup fault => fault.message
  | .access fault => fault.message

/-- A run that comes to its end. -/
structure Ending where
  exitCode : Nat := 0
  stdout : Text := []
  stderr : Text := []
  /-- The tree afterwards. -/
  files : Files.Tree

inductive Outcome where
  | usage (error : UsageError)
  | crash (crash : Crash)
  | ended (ending : Ending)

/-! ## Messages -/

/-- The columns of the terminal, which are assumed: a program finds out the width of its terminal, and
takes 80 columns where it cannot. -/
def terminalWidth : Nat := 160

/-- What standard error shows of a text. -/
def onStderr (text : Text) : Text := Text.spellSurrogates text

/-- End with a message, which may be marked up.  Records were written before it. -/
def complain (files : Files.Tree) (logged message : Text) : Outcome :=
  match Terminal.printMarkup terminalWidth message with
  | .error fault => .crash (.markup fault)
  | .ok printed =>
      .ended {
        exitCode := 2
        stderr := onStderr (logged ++ printed)
        files := files }

/-! ## Settings -/

/-- The absolute path of a text; `..` cancels the segment before it. -/
def resolve (directory : Files.Location) (text : Text) : Path :=
  let path := Path.ofText text
  Path.normalize ⟨.slash, Files.startOf directory path ++ path.segments⟩

/-- The paths that are looked at while a text is made an absolute path: one for every name in it, from
the front, where `..` takes back the name before it. -/
def resolutionSteps (path : Path) : List Path :=
  ((List.range path.segments.length).filter fun count =>
      path.segments[count]? ≠ some Path.up).map fun count =>
    Path.normalize
      ⟨if path.isAbsolute then .slash else .relative, path.segments.take (count + 1)⟩

/-- The folder of the project that a task works on. -/
def Task.project (task : Task) (directory : Files.Location) : Path :=
  resolve directory (task.projectRoot.getD [])

/-- Settings with the choices of the command line, which go before those of the project. -/
def Conversion.applyTo (conversion : Conversion) (settings : Config.Settings) : Config.Settings :=
  { settings with
    ignoreSuppressed := conversion.ignoreSuppressed.getD settings.ignoreSuppressed
    toolName := conversion.toolName.getD settings.toolName
    toolVersion := conversion.toolVersion.or settings.toolVersion
    fingerprints := settings.fingerprints && !conversion.noFingerprints }

/-- The settings that a job works with. -/
def Job.settings (job : Job) (settings : Config.Settings) : Config.Settings :=
  match job with
  | .convert conversion => conversion.applyTo settings
  | .summary => settings

/-- The folder that artifacts are named relative to. -/
def Task.base (task : Task) (directory : Files.Location) (settings : Config.Settings) : Path :=
  match task.baseFolder with
  | some folder => resolve directory folder
  | none =>
      match settings.baseFolder with
      | some folder => (task.project directory).join (Path.ofText folder)
      | none => task.project directory

/-- The file that a conversion writes its log to. -/
def Task.destination? (task : Task) (directory : Files.Location) (settings : Config.Settings) :
    Option Path :=
  match task.job with
  | .summary => none
  | .convert conversion =>
      match conversion.output with
      | some file => some (Path.ofText file)
      | none => settings.output.map fun file => (task.project directory).join (Path.ofText file)

/-! ## The report -/

/-- Whether a task reads standard input. -/
def Task.readsStdin (task : Task) : Bool := task.input.trimBlank = Text.ofString "-"

/-- The text of the report. -/
def Task.reportText (task : Task) (surroundings : Surroundings) : Except Files.Failure Text :=
  if task.readsStdin then .ok (Text.universalNewlines surroundings.input)
  else
    (Files.readFile surroundings.files surroundings.directory (Path.ofText task.input)).map
      fun bytes => Text.universalNewlines (Text.decodeUtf8Lenient bytes)

/-! ## Records -/

def readerSource : Text := Text.ofString "lintsarif.reporters.eslint_json"

def builderSource : Text := Text.ofString "lintsarif.reporters.sarif"

def commandSource : Text := Text.ofString "lintsarif.cli"

/-- The records of reading a report. -/
def readingRecords (skipped : Nat) (report : Lint.Report) : List Logging.Record :=
  List.replicate skipped
      { source := readerSource
        level := .debug
        text := "skipping file result without filePath" }
    ++ [{ source := readerSource
          level := .debug
          text := Text.ofString "parsed " ++ Text.ofNat report.results.length
            ++ Text.ofString " file result(s), " ++ Text.ofNat report.rules.length
            ++ Text.ofString " rule meta entr(ies)" }]

/-- The records of building a log. -/
def buildingRecords (options : Sarif.Options) (report : Lint.Report) (log : Sarif.Log) :
    List Logging.Record :=
  (Sarif.rulesWithoutMeta options report.rules report.results).map (fun ruleId =>
      { source := builderSource
        level := .debug
        text := Text.ofString "sarif: no metadata for rule " ++ ruleId })
    ++ [{ source := builderSource
          level := .debug
          text := Text.ofString "sarif: " ++ Text.ofNat log.artifacts.length
            ++ Text.ofString " artifact(s), " ++ Text.ofNat log.driver.rules.length
            ++ Text.ofString " rule(s), " ++ Text.ofNat log.results.length
            ++ Text.ofString " result(s), " ++ Text.ofNat log.notifications.length
            ++ Text.ofString " notification(s)" }]

/-- The record of writing a log to a file. -/
def writingRecord (log : Sarif.Log) (destination : Path) : Logging.Record where
  source := commandSource
  level := .info
  text := Text.ofString "wrote " ++ Text.ofNat log.results.length
    ++ Text.ofString " result(s) for " ++ Text.ofNat log.artifacts.length
    ++ Text.ofString " artifact(s) to " ++ destination.toText

/-! ## Preparation -/

/-- What a job delivers its log from. -/
structure Prepared where
  settings : Config.Settings
  report : Lint.Report
  log : Sarif.Log
  records : List Logging.Record

/-- Why preparation ends early: wrong usage, a fault without a message of its own, or a message to
the user. -/
inductive Halt where
  | usage (error : UsageError)
  | crash (crash : Crash)
  | complaint (message : Text)

/-- The end of a run whose settings cannot be found. -/
def Halt.ofLoad : Config.LoadError → Halt
  | .config error => .complaint (Text.ofString "Invalid configuration: " ++ error.message)
  | .notText fault => .crash (.settingsNotText fault)
  | .excessiveInteger digits => .crash (.excessiveInteger digits)
  | .unreadable failure => .crash (.unreadable failure)

/-- What every message on a report begins with. -/
def aboutReport : Text := Text.ofString "Invalid ESLint report: "

/-- The end of a run whose report lies in no file. -/
def Halt.ofFile : Files.Failure → Halt
  | .refused fault => .complaint (aboutReport ++ fault.message)
  | failure => .crash (.unreadable failure)

/-- The end of a run whose report cannot be read. -/
def Halt.ofReport : Lint.ReadError → Halt
  | .report error => .complaint (aboutReport ++ error.message)
  | .excessiveInteger digits => .crash (.excessiveInteger digits)

/-- Refuse the value of an option that is no path of the kind asked for. -/
def checkValue (surroundings : Surroundings) (rule : ValueRule) (value : Text) :
    Except Halt Unit := do
  let unreadable (failure : Files.Failure) : Halt := .crash (.unreadable failure)
  match rule with
  | .none | .text => return ()
  | .path => (Files.checkText value).mapError unreadable
  | .absolutePath =>
      (resolutionSteps (Path.ofText value)).forM fun step =>
        (Files.checkText step.toText).mapError unreadable
  | .directory =>
      (resolutionSteps (Path.ofText value)).forM fun step =>
        (Files.checkText step.toText).mapError unreadable
      let folder := resolve surroundings.directory value
      if Files.isDirectory surroundings.files surroundings.directory folder then return ()
      else .error (.usage (.notDirectory folder.toText))

/-- The settings of the project of a task, with the choices of the command line. -/
def Task.loadSettings (task : Task) (surroundings : Surroundings) :
    Except Halt Config.Settings := do
  let settings ← (Config.load surroundings.files surroundings.directory
    (task.project surroundings.directory)).mapError Halt.ofLoad
  return task.job.settings settings

/-- Find the settings, read the report and build its log. -/
def Task.prepare (task : Task) (surroundings : Surroundings) : Except Halt Prepared := do
  let settings ← task.loadSettings surroundings
  let text ← (task.reportText surroundings).mapError Halt.ofFile
  let report ← (Lint.readReport text).mapError Halt.ofReport
  let options := settings.options (task.base surroundings.directory settings).toText
  let log ← (Sarif.Log.ofReport options report).mapError fun fault => .crash (.unencodable fault)
  return {
    settings
    report
    log
    records := readingRecords (Lint.skippedIn text) report ++ buildingRecords options report log }

/-! ## Delivery -/

/-- A log as it is written: its text and a line feed. -/
def written (log : Sarif.Log) : Text := log.render ++ [Text.lineFeed]

/-- Write a log to a file, in a folder that is made where it is missing. -/
def writeLog (surroundings : Surroundings) (destination : Path) (log : Sarif.Log) :
    Files.Tree × Option Files.Failure :=
  match Files.makeDirectories surroundings.files surroundings.directory destination.parent with
  | (files, some failure) => (files, some failure)
  | (files, none) =>
      match Files.writeFile files surroundings.directory destination
        ((written log).flatMap Text.utf8Bytes) with
      | .error failure => (files, some failure)
      | .ok files => (files, none)

/-- The exit code of a conversion that delivers its log. -/
def Conversion.exitCode (conversion : Conversion) (log : Sarif.Log) : Nat :=
  if conversion.failOnError && !log.executionSuccessful then 1 else 0

/-- Deliver the log of a conversion. -/
def deliver (surroundings : Surroundings) (task : Task) (conversion : Conversion)
    (prepared : Prepared) : Outcome :=
  let logged := Logging.written task.verbosity prepared.records
  match task.destination? surroundings.directory prepared.settings with
  | none =>
      .ended {
        exitCode := conversion.exitCode prepared.log
        stdout := written prepared.log
        stderr := onStderr logged
        files := surroundings.files }
  | some destination =>
      match writeLog surroundings destination prepared.log with
      | (files, some (.refused fault)) =>
          complain files logged (Text.ofString "Failed to write SARIF report: " ++ fault.message)
      | (_, some failure) => .crash (.unreadable failure)
      | (files, none) =>
          .ended {
            exitCode := conversion.exitCode prepared.log
            stderr := onStderr (logged
              ++ Logging.written task.verbosity [writingRecord prepared.log destination])
            files := files }

/-- The first part of a printed text that cannot be encoded. -/
def unprintable? (parts : List Text) : Option Text.EncodeFault :=
  parts.findSome? Text.surrogateRun?

/-- Print the summary of a log. -/
def summarize (surroundings : Surroundings) (task : Task) (prepared : Prepared) : Outcome :=
  match Summary.View.ofJson (task.verbosity != .quiet) prepared.log.toJson with
  | .error fault => .crash (.access fault)
  | .ok view =>
      match unprintable? (view.parts terminalWidth) with
      | some fault => .crash (.unprintable fault)
      | none =>
          .ended {
            stdout := view.print terminalWidth
            stderr := onStderr (Logging.written task.verbosity prepared.records)
            files := surroundings.files }

/-! ## Running -/

/-- The outcome of a preparation that ended early. -/
def Halt.outcome (files : Files.Tree) : Halt → Outcome
  | .usage error => .usage error
  | .crash cause => .crash cause
  | .complaint message => complain files [] message

/-- The outcome of a task. -/
def Task.run (task : Task) (surroundings : Surroundings) : Outcome :=
  match task.prepare surroundings with
  | .error halt => halt.outcome surroundings.files
  | .ok prepared =>
      match task.job with
      | .convert conversion => deliver surroundings task conversion prepared
      | .summary => summarize surroundings task prepared

/-- A short text on the usage of the program. -/
def helpText : Text :=
  Text.ofString "Usage: " ++ programName
    ++ Text.ofString " [--verbose|--quiet] convert|summary [OPTIONS] REPORT\n"

/-- The outcome of a request. -/
def Request.outcome (request : Request) (surroundings : Surroundings) : Outcome :=
  match request with
  | .version => .ended { stdout := programVersion ++ [Text.lineFeed], files := surroundings.files }
  | .help => .ended { stdout := helpText, files := surroundings.files }
  | .run task => task.run surroundings

/-- The outcome of what is asked for. -/
def Asked.run (asked : Asked) (surroundings : Surroundings) : Outcome :=
  match asked.paths.forM fun (rule, value) => checkValue surroundings rule value with
  | .error halt => halt.outcome surroundings.files
  | .ok _ =>
      match asked.request with
      | .error error => .usage error
      | .ok request => request.outcome surroundings

/-- The outcome of a command line. -/
def run (arguments : List Text) (surroundings : Surroundings) : Outcome :=
  (Asked.ofArguments arguments).run surroundings

end Findings.Command
