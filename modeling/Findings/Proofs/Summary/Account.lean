import Findings.Proofs.Summary.LastLines
import Findings.Proofs.Summary.Shown

/-!
Contract: a printed summary accounts for every finding.

Owns:
- `AccountsFor`, what the printed summary of a log has to be, in terms of the log alone: its texts in
  their order, every entry under the location of its own file, and counts that agree with the lines;
- `summary_accounts_for`: the log of every run has such a summary.

Does not own: how a text is laid out on a terminal.  Each text is laid out for itself, whatever
stands above it.
-/

set_option autoImplicit false

namespace Findings.Summary

open Findings.Lint Findings.Sarif Findings.Terminal Findings.FirstAppearance

/-! ## What has to be printed -/

/-- The mark behind a suppressed finding. -/
def suppressedMark : Text := Text.ofString "  [suppressed]"

/-- What the line of an entry says of its finding: an icon for the level, the label, the position if
it is known, and the text. -/
def findingText (entry : Sarif.Entry) : Text :=
  Text.ofString "  " ++ iconOf (.text entry.finding.level.toText)
    ++ Text.ofString " " ++ labelText entry
    ++ (if positionText entry.finding.location.region = [] then []
        else Text.ofString "  (" ++ positionText entry.finding.location.region ++ Text.ofString ")")
    ++ Text.ofString "  " ++ entry.finding.text

/-- The line of an entry. -/
def lineOf (entry : Sarif.Entry) : Text := (Entry.ofEntry entry).line

/-- The line of an entry is closed by the mark: the mark stands behind all that is said of the
finding.  A text that happens to end in these characters is no mark. -/
def IsMarked (entry : Sarif.Entry) : Prop := lineOf entry = findingText entry ++ suppressedMark

instance : DecidablePred IsMarked := fun _ => inferInstanceAs (Decidable (_ = _))

/-- The entries of a file: its notifications and then its results, each in the order of the log. -/
def entriesAt (log : Log) (uri : Text) : List Sarif.Entry :=
  (log.notifications.filter fun finding => finding.location.uri = uri).map .notification ++
    (log.results.filter fun result => result.finding.location.uri = uri).map .result

/-- The texts printed for a file: its location as a heading, a line for each entry, and an empty
one. -/
def sectionTexts (log : Log) (uri : Text) : List Text :=
  uri :: (entriesAt log uri).map lineOf ++ [[]]

/-- The text in the header. -/
def titleText (log : Log) : Text :=
  programName ++ Text.ofString " v" ++ programVersion ++ Text.ofString " · "
    ++ (log.driver.version.map log.driver.fullName).getD log.driver.name

/-- The number of files, as the header tells it. -/
def artifactsText (log : Log) : Text :=
  Text.ofNat log.artifacts.length ++ Text.ofString " artifact(s)"

/-- The number of results that have suppressions. -/
def suppressedCount (log : Log) : Nat :=
  log.results.countP fun result => result.suppressions.getD [] ≠ []

/-- The numbers of entries and rules, as the footer tells them. -/
def countsText (log : Log) : Text :=
  Text.ofString "Results: " ++ Text.ofNat log.results.length
    ++ Text.ofString " (" ++ Text.ofNat (suppressedCount log)
    ++ Text.ofString " suppressed)  Rules: " ++ Text.ofNat log.driver.rules.length
    ++ Text.ofString "  Notifications: " ++ Text.ofNat log.notifications.length

/-- The texts of the footer. -/
def footerTexts (log : Log) : List Text :=
  [footerRule, countsText log,
    if log.executionSuccessful then "Execution successful" else "Execution failed", footerRule]

/-- A printed summary accounts for a log.  It is the header, a section for every file if details are
wanted, and the footer; the files come in strictly ascending order, each listed file once; every entry
stands in the section of its own file, and no entry is left out or shown twice; its line says what is
known of the finding, with the mark behind it or without; and the counts agree with the lines. -/
structure AccountsFor (width : Nat) (details : Bool) (log : Log) (headings : List Text)
    (printed : Text) : Prop where
  layout : printed = unlines (panel width (titleText log) (artifactsText log)) ++
    ((if details then headings.flatMap (sectionTexts log) else []) ++ footerTexts log).flatMap
      (print width)
  ascending : headings.Pairwise fun left right => left.points < right.points
  headings_perm : headings.Perm (log.artifacts.map Artifact.uri)
  entries_perm : (headings.flatMap (entriesAt log)).Perm log.entries
  own_heading : ∀ uri, ∀ entry ∈ entriesAt log uri, entry.finding.location.uri = uri
  line_cases : ∀ entry ∈ log.entries, lineOf entry = findingText entry ∨ IsMarked entry
  heading_count : headings.length = log.artifacts.length
  line_count : ((headings.flatMap (entriesAt log)).map lineOf).length =
    log.results.length + log.notifications.length
  marked_count : (headings.flatMap (entriesAt log)).countP (fun entry => IsMarked entry) =
    suppressedCount log

/-! ## Lines -/

/-- The line of an entry is what it says of the finding, with the mark behind it if the entry has
suppressions. -/
theorem lineOf_eq (entry : Sarif.Entry) :
    lineOf entry = findingText entry ++ if hasSuppressions entry then suppressedMark else [] := by
  unfold lineOf Entry.line Entry.ofEntry findingText
  simp only [List.isEmpty_iff]
  rfl

theorem line_cases_of_entry (entry : Sarif.Entry) :
    lineOf entry = findingText entry ∨ IsMarked entry := by
  unfold IsMarked
  rw [lineOf_eq]
  cases hasSuppressions entry with
  | false => exact .inl (List.append_nil _)
  | true => exact .inr rfl

theorem isMarked_iff (entry : Sarif.Entry) : IsMarked entry ↔ hasSuppressions entry = true := by
  have visible : suppressedMark ≠ [] := by decide
  unfold IsMarked
  rw [lineOf_eq, List.append_cancel_left_eq]
  cases hasSuppressions entry <;> simp [visible.symm]

/-- Only results have suppressions. -/
theorem countP_isMarked (log : Log) :
    log.entries.countP (fun entry => IsMarked entry) = suppressedCount log := by
  unfold Log.entries suppressedCount
  rw [List.countP_append, List.countP_map, List.countP_map]
  have notifications : log.notifications.countP
      ((fun entry => decide (IsMarked entry)) ∘ Sarif.Entry.notification) = 0 := by
    rw [List.countP_eq_zero]
    intro finding _
    simp [isMarked_iff, hasSuppressions]
  rw [notifications, Nat.zero_add]
  apply List.countP_congr
  intro result _
  simp [isMarked_iff, hasSuppressions]

/-! ## Sections -/

/-- The headings of a log: the different locations of its entries in ascending order. -/
def headingsOf (log : Log) : List Text :=
  sortedKeys (log.entries.map fun entry => (entry.finding.location.uri, entry))

theorem itemsUnder_entries (log : Log) (uri : Text) :
    itemsUnder uri (log.entries.map fun entry => (entry.finding.location.uri, entry)) =
      entriesAt log uri := by
  unfold itemsUnder entriesAt Log.entries
  rw [List.filter_map, List.map_map, List.filter_append, List.filter_map, List.filter_map]
  exact List.map_id _

theorem texts_groupsOf (log : Log) :
    (groupsOf log.entries).flatMap Group.texts = (headingsOf log).flatMap (sectionTexts log) := by
  unfold groupsOf headingsOf
  rw [groupSorted_eq, List.map_map, List.flatMap_map]
  apply List.flatMap_congr
  intro uri _
  rw [Function.comp_apply, itemsUnder_entries]
  unfold Group.texts sectionTexts
  rw [List.map_map]
  rfl

theorem own_heading_of_mem {log : Log} {uri : Text} {entry : Sarif.Entry}
    (member : entry ∈ entriesAt log uri) : entry.finding.location.uri = uri := by
  unfold entriesAt at member
  simp only [List.mem_append, List.mem_map, List.mem_filter, decide_eq_true_eq] at member
  rcases member with ⟨finding, ⟨-, located⟩, rfl⟩ | ⟨result, ⟨-, located⟩, rfl⟩
  · exact located
  · exact located

theorem flatMap_entriesAt_perm (log : Log) :
    ((headingsOf log).flatMap (entriesAt log)).Perm log.entries := by
  have perm := flatMap_itemsUnder_perm
    (log.entries.map fun entry => (entry.finding.location.uri, entry))
  rw [List.map_map] at perm
  simp only [itemsUnder_entries] at perm
  exact perm.trans (List.Perm.of_eq (List.map_id _))

/-! ## The whole summary -/

theorem print_ofLog (width : Nat) (details : Bool) (log : Log) :
    (View.ofLog details log).print width =
      unlines (panel width (titleText log) (artifactsText log)) ++
        ((if details then (headingsOf log).flatMap (sectionTexts log) else []) ++
          footerTexts log).flatMap (print width) := by
  have groups : (View.ofLog details log).groups.flatMap Group.texts =
      if details then (headingsOf log).flatMap (sectionTexts log) else [] := by
    cases details with
    | true => exact texts_groupsOf log
    | false => rfl
  have suppressed : (View.ofLog details log).suppressed = suppressedCount log := by
    apply List.countP_congr
    intro result _
    simp [hasSuppressions]
  have footer : (View.ofLog details log).footer = footerTexts log := by
    unfold View.footer View.counts
    rw [suppressed]
    rfl
  unfold View.print View.parts View.body
  rw [groups, footer, List.flatten_cons, ← List.flatMap_def]
  rfl

section Runs

variable {options : Options} {rules : RuleTable} {files : List FileResult} {log : Log}

/-- The headings of the log of a run are its files. -/
theorem headingsOf_perm (built : Log.ofResults options rules files = .ok log) :
    (headingsOf log).Perm (log.artifacts.map Artifact.uri) := by
  have listedOnce : (log.artifacts.map Artifact.uri).Nodup := by
    rw [artifactUris_eq built]
    exact nodup_eraseDups _
  unfold headingsOf
  rw [List.perm_ext_iff_of_nodup (nodup_sortedKeys _) listedOnce]
  intro uri
  rw [mem_sortedKeys, List.map_map, mem_artifactUris_iff built]
  rfl

/-- **A summary accounts for every finding.**  The summary of the log of a run can always be printed,
and it shows each entry once, under the heading of its own file. -/
theorem summary_accounts_for (built : Log.ofResults options rules files = .ok log)
    (width : Nat) (details : Bool) :
    ∃ headings printed, ofLog width details log = .ok printed ∧
      AccountsFor width details log headings printed := by
  have headingsListed := headingsOf_perm built
  have everyEntry := flatMap_entriesAt_perm log
  refine ⟨headingsOf log, _, ofLog_eq_print width details log, ?_⟩
  exact {
    layout := print_ofLog width details log
    ascending := ascending_sortedKeys _
    headings_perm := headingsListed
    entries_perm := everyEntry
    own_heading := fun _ _ => own_heading_of_mem
    line_cases := fun entry _ => line_cases_of_entry entry
    heading_count := by
      rw [headingsListed.length_eq, List.length_map]
    line_count := by
      rw [List.length_map, everyEntry.length_eq]
      simp [Log.entries, Nat.add_comm]
    marked_count := by
      rw [everyEntry.countP_eq, countP_isMarked] }

end Runs

/-- The small run on a terminal of eighty columns, with details. -/
theorem summary_accounts_for_sample :
    ∃ log headings printed, Log.ofResults sampleOptions sampleRules sampleFiles = .ok log ∧
      ofLog 80 true log = .ok printed ∧ AccountsFor 80 true log headings printed := by
  obtain ⟨log, built⟩ := sample_succeeds
  obtain ⟨headings, printed, isPrinted, accounts⟩ := summary_accounts_for built 80 true
  exact ⟨log, headings, printed, built, isPrinted, accounts⟩

end Findings.Summary
