import Findings.Proofs.Command.Aftermath
import Findings.Proofs.Files.Elsewhere
import Findings.Proofs.Files.FromRoot
import Findings.Proofs.Files.Refusals
import Findings.Proofs.Terminal.Markup

/-!
Contract: one log that is written in two ways.

Owns:
- `WritesAlike`, two attempts at writing a log that both fail or write the same file at the same
  location;
- `writesAlike_sameBut`: that is so in trees that differ in one place, if the folder of the file lies
  elsewhere;
- `writeLog_fromRoot`: a path from the working directory and the same path from the root do the same,
  or are both refused;
- `Outcome.shown`, an outcome without the files and without standard error, and `shown_deliver`.

The paths of two refusals can be different ones, so that their messages are different.  That can be
told from more than standard error only if there are tags in them.
-/

set_option autoImplicit false

namespace Findings.Command

open Files (Tree Location Failure IsPathText)

section Attempts

variable {surroundings : Surroundings} {destination : Path} {log : Sarif.Log} {fault : Files.Fault}

theorem writeLog_eq (surroundings : Surroundings) (destination : Path) (log : Sarif.Log) :
    writeLog surroundings destination log =
      match Files.makeDirectories surroundings.files surroundings.directory destination.parent with
      | (files, some failure) => (files, some failure)
      | (files, none) =>
          match Files.writeFile files surroundings.directory destination (bytesOf log) with
          | .error failure => (files, some failure)
          | .ok files => (files, none) := rfl

/-- A log is refused under its own path or one above it. -/
theorem isAbout_of_writeLog
    (refused : (writeLog surroundings destination log).2 = some (.refused fault)) :
    fault.IsAbout destination := by
  unfold writeLog at refused
  split at refused
  · rename_i made
    have above := Files.isAbout_of_makeDirectoriesAbove (made ▸ refused)
    exact above.trans (List.dropLast_prefix _)
  · split at refused
    · rename_i failed
      cases refused
      exact Files.isAbout_of_writeFile failed
    · cases refused

/-- Where a file would be refused whatever directories are made, so is the log. -/
theorem exists_refused_of_writeFile (fits : IsPathText destination.toText)
    (refuses : ∀ files, surroundings.files.GainsDirectories files →
      ∃ fault, Files.writeFile files surroundings.directory destination (bytesOf log) =
        .error (.refused fault)) :
    ∃ fault, (writeLog surroundings destination log).2 = some (.refused fault) := by
  have gains := Files.gainsDirectories_makeDirectories surroundings.files surroundings.directory
    destination.parent
  rw [writeLog_eq]
  cases made : Files.makeDirectories surroundings.files surroundings.directory
      destination.parent with
  | mk files failed =>
      cases failed with
      | some failure =>
          have isRefusal := Files.isRefusal_makeDirectoriesAbove _ surroundings.files
            surroundings.directory (Files.isPathText_parent fits) (congrArg Prod.snd made)
          cases failure with
          | refused fault => exact ⟨fault, rfl⟩
          | nullCharacter => cases isRefusal
          | unencodable => cases isRefusal
      | none =>
          rw [made] at gains
          obtain ⟨fault, refused⟩ := refuses files gains
          refine ⟨fault, ?_⟩
          dsimp only
          rw [refused]

end Attempts

/-! ## Writing a log in two trees -/

/-- Both attempts at writing fail, with the same failure unless both are refused, or both write the
same file at the same location.  Apart from that there are new directories at most. -/
inductive WritesAlike (before other : Tree) :
    Tree × Option Failure → Tree × Option Failure → Prop where
  | failed {after otherAfter : Tree} {failure otherFailure : Failure}
      (alike : failure.IsRefusal ∧ otherFailure.IsRefusal ∨ failure = otherFailure)
      (gains : before.GainsDirectories after) (otherGains : other.GainsDirectories otherAfter) :
      WritesAlike before other (after, some failure) (otherAfter, some otherFailure)
  | written {after otherAfter : Tree} {location : Location} {content : List UInt8}
      (replaces : before.Replaces after location content)
      (otherReplaces : other.Replaces otherAfter location content) :
      WritesAlike before other (after, none) (otherAfter, none)

theorem isRefusal_or_eq_of_alike {paths : Path → Path → Prop} {failure other : Failure}
    (alike : Files.AlikeFailure paths failure other) :
    failure.IsRefusal ∧ other.IsRefusal ∨ failure = other := by
  cases alike with
  | refused cause related => exact .inl ⟨trivial, trivial⟩
  | same noRefusal => exact .inr rfl

section Trees

variable {surroundings other : Surroundings} {destination : Path} {log : Sarif.Log}
  {place : Location}

/-- **Writing a log in two trees.**  In trees that hold the same but in one place, a log is written in
the same way, if its folder lies elsewhere. -/
theorem writesAlike_sameBut (sameDirectory : other.directory = surroundings.directory)
    (same : surroundings.files.SameBut place other.files) (noUp : Path.up ∉ surroundings.directory)
    (avoids : Files.Avoids place (Files.startOf surroundings.directory destination)
      destination.segments.dropLast) :
    WritesAlike surroundings.files other.files (writeLog surroundings destination log)
      (writeLog other destination log) := by
  have made := Files.makeDirectories_alike (Files.makesAlike_sameBut noUp) same
    (show Files.SamePast place surroundings.directory destination.parent destination.parent from
      ⟨rfl, avoids⟩) (Nat.le_refl _)
  have gains := Files.gainsDirectories_makeDirectories surroundings.files surroundings.directory
    destination.parent
  have otherGains := Files.gainsDirectories_makeDirectories other.files surroundings.directory
    destination.parent
  rw [writeLog_eq, writeLog_eq, sameDirectory]
  generalize Files.makeDirectories surroundings.files surroundings.directory destination.parent =
    left at made gains
  generalize Files.makeDirectories other.files surroundings.directory destination.parent =
    right at made otherGains
  obtain ⟨files, failed⟩ := left
  obtain ⟨otherFiles, otherFailed⟩ := right
  obtain ⟨sameAfter, failures⟩ := made
  cases failures with
  | some alike => exact .failed (isRefusal_or_eq_of_alike alike) gains otherGains
  | none =>
      have wrote := Files.writeFile_sameBut sameAfter noUp avoids (bytesOf log)
      dsimp only at wrote ⊢
      generalize Files.writeFile files surroundings.directory destination (bytesOf log) = left at wrote
      generalize Files.writeFile otherFiles surroundings.directory destination (bytesOf log) =
        right at wrote
      cases wrote with
      | error alike => exact .failed (isRefusal_or_eq_of_alike alike) gains otherGains
      | ok puts =>
          obtain ⟨location, inside, rfl, rfl⟩ := puts
          exact .written (.of_gains gains (.put inside _)) (.of_gains otherGains (.put inside _))

/-! ## Writing a log under two paths -/

/-- A path as it is taken from the working directory, written out from the root. -/
def atRoot (directory : Location) (path : Path) : Path := Path.join ⟨.slash, directory⟩ path

/-- A path and the path written out from the root are both short enough for paths, or both too
long. -/
def FitAlike (directory : Location) (path : Path) : Prop :=
  Files.byteCount (atRoot directory path).toText ≤ Files.maxPathBytes ∨
    Files.maxPathBytes < Files.byteCount path.toText

theorem atRoot_of_absolute {directory : Location} {path : Path} (absolute : path.root ≠ .relative) :
    atRoot directory path = path := by
  unfold atRoot Path.join Path.isAbsolute
  rw [if_pos (by simpa using absolute)]

theorem atRoot_of_relative {directory : Location} {path : Path} (relative : path.root = .relative) :
    atRoot directory path = ⟨.slash, directory ++ path.segments⟩ := by
  unfold atRoot Path.join Path.isAbsolute
  rw [if_neg (by simp [relative])]

theorem root_atRoot (directory : Location) (path : Path) :
    (atRoot directory path).root ≠ .relative := by
  by_cases absolute : path.root ≠ .relative
  · rwa [atRoot_of_absolute absolute]
  · rw [atRoot_of_relative (not_not.1 absolute)]
    exact Path.Root.noConfusion

/-- The names of a path written out from the root are those in front of a walk and those of the
path. -/
theorem segments_atRoot (directory : Location) (path : Path) :
    (atRoot directory path).segments = Files.startOf directory path ++ path.segments := by
  unfold Files.startOf Path.isAbsolute
  by_cases absolute : path.root ≠ .relative
  · rw [atRoot_of_absolute absolute, if_pos (by simpa using absolute), List.nil_append]
  · rw [atRoot_of_relative (not_not.1 absolute), if_neg (by simpa using absolute)]

/-- A path that is too long is refused. -/
theorem exists_refused_of_tooLong (fits : IsPathText destination.toText)
    (tooLong : Files.maxPathBytes < Files.byteCount destination.toText) :
    ∃ fault, (writeLog surroundings destination log).2 = some (.refused fault) := by
  refine exists_refused_of_writeFile fits fun files _ => ⟨⟨.nameTooLong, destination⟩, ?_⟩
  unfold Files.writeFile Files.checkPath
  rw [(Files.checkText_eq_ok_iff _).2 fits, ok_bind, if_pos tooLong, error_bind]

/-- The working directory itself is refused, however it is written. -/
theorem exists_refused_of_directory
    (has : surroundings.files.HasDirectory surroundings.directory)
    (fits : Files.checkPath destination = .ok ())
    (isDirectory : destination = ⟨.relative, []⟩ ∨ destination = ⟨.slash, surroundings.directory⟩) :
    ∃ fault, (writeLog surroundings destination log).2 = some (.refused fault) := by
  have isText := ((Files.checkPath_eq_ok_iff _).1 fits).1
  refine exists_refused_of_writeFile isText fun files gains => ⟨⟨.isDirectory, destination⟩, ?_⟩
  unfold Files.writeFile
  rw [fits, ok_bind]
  rcases isDirectory with rfl | rfl
  · rfl
  · have hasStill := has.of_gains gains
    rcases Files.placeOfNew_directory hasStill .isDirectory with refused | found
    · rw [refused]
    · rw [found]
      dsimp only
      rw [hasStill.isDirectory]

/-- Attempts at writing a log under two paths are the same, or both are refused. -/
def SameOrRefused (left right : Tree × Option Failure) : Prop :=
  left = right ∨
    (∃ fault, left.2 = some (.refused fault)) ∧ ∃ fault, right.2 = some (.refused fault)

theorem sameOrRefused_of_alike {paths : Path → Path → Prop} {failure otherFailure : Failure}
    (alike : Files.AlikeFailure paths failure otherFailure) (files : Tree) :
    SameOrRefused (files, some failure) (files, some otherFailure) := by
  cases alike with
  | refused cause related => exact .inr ⟨⟨_, rfl⟩, _, rfl⟩
  | same noRefusal => exact .inl rfl

theorem writeLog_fromRoot (has : surroundings.files.HasDirectory surroundings.directory)
    {path : Path} (fromRoot : Files.FromRoot surroundings.directory destination path)
    (hasName : destination.segments ≠ []) :
    SameOrRefused (writeLog surroundings destination log) (writeLog surroundings path log) := by
  have longer : destination.parent.segments.length ≤ path.parent.segments.length := by
    rw [fromRoot.isOther]
    show destination.segments.dropLast.length ≤
      (surroundings.directory ++ destination.segments).dropLast.length
    rw [List.length_dropLast, List.length_dropLast, List.length_append]
    omega
  have made := Files.makeDirectories_alike Files.makesAlike_fromRoot
    (show surroundings.files = surroundings.files ∧
      surroundings.files.HasDirectory surroundings.directory from ⟨rfl, has⟩)
    (fromRoot.parent hasName) longer
  rw [writeLog_eq, writeLog_eq]
  generalize Files.makeDirectories surroundings.files surroundings.directory destination.parent =
    left at made
  generalize Files.makeDirectories surroundings.files surroundings.directory path.parent =
    right at made
  obtain ⟨files, failed⟩ := left
  obtain ⟨_, otherFailed⟩ := right
  obtain ⟨⟨rfl, hasStill⟩, failures⟩ := made
  cases failures with
  | some alike => exact sameOrRefused_of_alike alike files
  | none =>
      have wrote := Files.writeFile_fromRoot hasStill fromRoot hasName (bytesOf log)
      dsimp only at wrote ⊢
      generalize Files.writeFile files surroundings.directory destination (bytesOf log) = left at wrote
      generalize Files.writeFile files surroundings.directory path (bytesOf log) = right at wrote
      cases wrote with
      | error alike => exact sameOrRefused_of_alike alike files
      | ok same =>
          rw [same]
          exact .inl rfl

/-- **Writing a log under two paths.**  A log is written in the same way under a path and under the
path written out from the root, or is refused under both. -/
theorem writeLog_atRoot (has : surroundings.files.HasDirectory surroundings.directory)
    (isText : IsPathText (atRoot surroundings.directory destination).toText)
    (fit : FitAlike surroundings.directory destination) :
    SameOrRefused (writeLog surroundings destination log)
      (writeLog surroundings (atRoot surroundings.directory destination) log) := by
  by_cases absolute : destination.root ≠ .relative
  · rw [atRoot_of_absolute absolute]
    exact .inl rfl
  · have relative : destination.root = .relative := not_not.1 absolute
    have isPath : destination = ⟨.relative, destination.segments⟩ := by rw [← relative]
    have isAtRoot := @atRoot_of_relative surroundings.directory _ relative
    have inside : destination.segments.Sublist (surroundings.directory ++ destination.segments) :=
      List.sublist_append_right _ _
    rcases fit with short | tooLong
    · have fits : Files.checkPath (atRoot surroundings.directory destination) = .ok () :=
        (Files.checkPath_eq_ok_iff _).2 ⟨isText, short⟩
      have fromRoot : Files.FromRoot surroundings.directory destination
          (atRoot surroundings.directory destination) := ⟨relative, isAtRoot, fits⟩
      by_cases hasName : destination.segments = []
      · refine .inr ⟨exists_refused_of_directory has fromRoot.checkPath (.inl ?_),
          exists_refused_of_directory has fits (.inr ?_)⟩
        · rw [isPath, hasName]
        · rw [isAtRoot, hasName, List.append_nil]
      · exact writeLog_fromRoot has fromRoot hasName
    · have single : Path.Root.relative ≠ .doubleSlash := by decide
      have longer := Files.byteCount_toText_le single inside
      rw [← isAtRoot, ← isPath] at longer
      rw [isAtRoot, Files.isPathText_toText_iff] at isText
      have partIsText : IsPathText destination.toText :=
        (Files.isPathText_toText_iff _).2 fun name member => isText name (inside.subset member)
      rw [← Files.isPathText_toText_iff, ← isAtRoot] at isText
      exact .inr ⟨exists_refused_of_tooLong partIsText tooLong,
        exists_refused_of_tooLong isText (tooLong.trans_le longer)⟩

/-- A log is written alike where both differ, the trees and the paths. -/
theorem writesAlike_atRoot (sameDirectory : other.directory = surroundings.directory)
    (same : surroundings.files.SameBut place other.files)
    (has : other.files.HasDirectory surroundings.directory)
    (avoids : Files.Avoids place (Files.startOf surroundings.directory destination)
      destination.segments.dropLast)
    (isText : IsPathText (atRoot surroundings.directory destination).toText)
    (fit : FitAlike surroundings.directory destination) :
    WritesAlike surroundings.files other.files (writeLog surroundings destination log)
      (writeLog other (atRoot surroundings.directory destination) log) := by
  have alike := @writesAlike_sameBut _ _ _ log _ sameDirectory same has.noUp avoids
  rw [← sameDirectory] at has isText fit ⊢
  rcases @writeLog_atRoot other destination log has isText fit with sameAttempt | ⟨refused, refusedToo⟩
  · rw [← sameAttempt]
    exact alike
  · obtain ⟨fault, isRefused⟩ := refused
    obtain ⟨otherFault, isRefusedToo⟩ := refusedToo
    have gains := @gainsDirectories_of_writeLog other (atRoot other.directory destination) log
    generalize writeLog other (atRoot other.directory destination) log = attempt at *
    obtain ⟨after, failed⟩ := attempt
    cases isRefusedToo
    generalize writeLog surroundings destination log = left at alike ⊢
    generalize writeLog other destination log = right at alike isRefused
    cases alike with
    | written => cases isRefused
    | failed kind leftGains =>
        cases isRefused
        refine .failed (.inl ⟨?_, trivial⟩) leftGains (gains rfl)
        rcases kind with ⟨isRefusal, _⟩ | rfl
        · exact isRefusal
        · trivial

end Trees

/-! ## What is left of the files -/

/-- After two operations every file has the same content in both trees, but for one place, where both
can have left what there was. -/
def ChangeAlike (place : Location) (before other after otherAfter : Tree) : Prop :=
  ∀ location, after.content? location = otherAfter.content? location ∨
    location = place ∧ after.content? place = before.content? place ∧
      otherAfter.content? place = other.content? place

section Contents

variable {before other after otherAfter : Tree} {place location : Location}
  {content : List UInt8}

theorem content?_of_replaces (replaces : before.Replaces after location content)
    {elsewhere : Location} (different : elsewhere ≠ location) :
    after.content? elsewhere = before.content? elsewhere := by
  unfold Tree.content?
  rcases replaces.others elsewhere different with same | ⟨absent, isDirectory⟩
  · rw [same]
  · rw [absent, isDirectory]

theorem ChangeAlike.refl (same : before.SameBut place other) :
    ChangeAlike place before other before other := by
  intro location
  by_cases atPlace : location = place
  · exact .inr ⟨atPlace, rfl, rfl⟩
  · unfold Tree.content?
    rw [same.others location atPlace]
    exact .inl rfl

/-- Where a log is written alike, the files afterwards have changed alike. -/
theorem changeAlike_of_writesAlike (same : before.SameBut place other)
    {attempt otherAttempt : Tree × Option Failure}
    (alike : WritesAlike before other attempt otherAttempt) :
    ChangeAlike place before other attempt.1 otherAttempt.1 := by
  intro location
  have unchanged := ChangeAlike.refl same location
  cases alike with
  | failed _ gains otherGains =>
      rw [gains.content?, otherGains.content?, gains.content?, otherGains.content?]
      exact unchanged
  | @written _ _ written content replaces otherReplaces =>
      by_cases isWritten : location = written
      · refine .inl ?_
        unfold Tree.content?
        rw [isWritten, replaces.content, otherReplaces.content]
      · rw [content?_of_replaces replaces isWritten, content?_of_replaces otherReplaces isWritten]
        refine unchanged.imp_right fun ⟨atPlace, _⟩ => ⟨atPlace, ?_, ?_⟩
        · rw [← atPlace, content?_of_replaces replaces isWritten]
        · rw [← atPlace, content?_of_replaces otherReplaces isWritten]

end Contents

/-! ## What is shown -/

/-- An outcome without the files and without standard error. -/
def Outcome.shown : Outcome → Outcome
  | .usage error => .usage error
  | .crash cause => .crash cause
  | .ended ending => .ended { ending with stderr := [], files := [] }

/-- A run ends with the message that its log could not be written under a path or one above it. -/
def Outcome.IsRefusal (outcome : Outcome) (destination : Path) : Prop :=
  ∃ (files : Tree) (logged : Text) (fault : Files.Fault), fault.IsAbout destination ∧
    outcome = complain files logged (Text.ofString "Failed to write SARIF report: " ++ fault.message)

section Shown

variable {surroundings other : Surroundings} {task otherTask : Task}
  {conversion otherConversion : Conversion} {prepared otherPrepared : Prepared}
  {outcome : Outcome} {destination path : Path}

/-- Messages are shown on standard error only. -/
theorem shown_complain (files otherFiles : Tree) (logged otherLogged message : Text) :
    (complain files logged message).shown = (complain otherFiles otherLogged message).shown := by
  unfold complain
  cases Terminal.printMarkup terminalWidth message <;> rfl

/-- A refusal without brackets in its path is told with an exit code of two. -/
theorem shown_of_isRefusal (refused : outcome.IsRefusal destination)
    (noBracket : ∀ name ∈ destination.segments, Terminal.openingBracket ∉ name) :
    outcome.shown = .ended { exitCode := 2, files := [] } := by
  obtain ⟨files, logged, fault, isAbout, rfl⟩ := refused
  have pathFree : Terminal.openingBracket ∉ fault.path.toText := by
    intro member
    obtain ⟨name, isName, inName⟩ := Path.exists_mem_of_mem_toText member (by decide) (by decide)
    exact noBracket name (isAbout.subset isName) inName
  have beforeFree : Terminal.openingBracket ∉ Text.ofString "Failed to write SARIF report: " := by
    decide
  obtain ⟨printed, isPrinted⟩ := Terminal.exists_printMarkup terminalWidth
    (Terminal.isTagFree_message beforeFree pathFree)
  unfold complain
  rw [isPrinted]
  rfl

theorem deliver_of_refused {fault : Files.Fault}
    (somewhere : task.destination? surroundings.directory prepared.settings = some destination)
    (refused : (writeLog surroundings destination prepared.log).2 = some (.refused fault)) :
    (deliver surroundings task conversion prepared).IsRefusal destination := by
  have isAbout := isAbout_of_writeLog refused
  cases attempt : writeLog surroundings destination prepared.log with
  | mk files failed =>
      rw [attempt] at refused
      cases refused
      refine ⟨files, Logging.written task.verbosity prepared.records, fault, isAbout, ?_⟩
      simp only [deliver, somewhere, attempt]

/-- A fault that nothing catches is told without a path. -/
theorem shown_deliver_of_failure {failure : Failure}
    (somewhere : task.destination? surroundings.directory prepared.settings = some destination)
    (failed : (writeLog surroundings destination prepared.log).2 = some failure)
    (noRefusal : ¬ failure.IsRefusal) :
    (deliver surroundings task conversion prepared).shown = .crash (.unreadable failure) := by
  cases attempt : writeLog surroundings destination prepared.log with
  | mk files other =>
      rw [attempt] at failed
      cases failed
      cases failure with
      | refused fault => exact absurd trivial noRefusal
      | nullCharacter => simp only [deliver, somewhere, attempt, Outcome.shown]
      | unencodable fault => simp only [deliver, somewhere, attempt, Outcome.shown]

theorem shown_deliver_of_written
    (somewhere : task.destination? surroundings.directory prepared.settings = some destination)
    (succeeded : (writeLog surroundings destination prepared.log).2 = none) :
    (deliver surroundings task conversion prepared).shown =
      .ended { exitCode := conversion.exitCode prepared.log, files := [] } := by
  cases attempt : writeLog surroundings destination prepared.log with
  | mk files failed =>
      rw [attempt] at succeeded
      cases succeeded
      rw [Task.deliver_of_writeLog somewhere attempt]
      rfl

/-- **One log, delivered twice.**  If a log is written alike, the runs show the same, unless both are
refused. -/
theorem shown_deliver
    (somewhere : task.destination? surroundings.directory prepared.settings = some destination)
    (otherSomewhere : otherTask.destination? other.directory otherPrepared.settings = some path)
    (sameLog : otherPrepared.log = prepared.log)
    (sameCode : otherConversion.exitCode prepared.log = conversion.exitCode prepared.log)
    (alike : WritesAlike surroundings.files other.files
      (writeLog surroundings destination prepared.log) (writeLog other path prepared.log)) :
    (deliver surroundings task conversion prepared).shown =
        (deliver other otherTask otherConversion otherPrepared).shown ∨
      (deliver surroundings task conversion prepared).IsRefusal destination ∧
        (deliver other otherTask otherConversion otherPrepared).IsRefusal path := by
  rw [← sameLog] at alike
  generalize attempt : writeLog surroundings destination otherPrepared.log = left at alike
  generalize otherAttempt : writeLog other path otherPrepared.log = right at alike
  rw [sameLog] at attempt
  cases alike with
  | written =>
      rw [shown_deliver_of_written somewhere (congrArg Prod.snd attempt),
        shown_deliver_of_written otherSomewhere (congrArg Prod.snd otherAttempt), sameLog, sameCode]
      exact .inl rfl
  | @failed after otherAfter failure otherFailure kind _ _ =>
      by_cases isRefusal : failure.IsRefusal
      · have bothRefused : otherFailure.IsRefusal := by
          rcases kind with ⟨_, otherRefusal⟩ | rfl
          · exact otherRefusal
          · exact isRefusal
        cases failure with
        | refused fault =>
            cases otherFailure with
            | refused otherFault =>
                exact .inr ⟨deliver_of_refused somewhere (congrArg Prod.snd attempt),
                  deliver_of_refused otherSomewhere (congrArg Prod.snd otherAttempt)⟩
            | nullCharacter => cases bothRefused
            | unencodable => cases bothRefused
        | nullCharacter => cases isRefusal
        | unencodable => cases isRefusal
      · rcases kind with ⟨refusal, _⟩ | rfl
        · exact absurd refusal isRefusal
        · rw [shown_deliver_of_failure somewhere (congrArg Prod.snd attempt) isRefusal,
            shown_deliver_of_failure otherSomewhere (congrArg Prod.snd otherAttempt) isRefusal]
          exact .inl rfl

end Shown

end Findings.Command
