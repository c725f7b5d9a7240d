import Findings.Proofs.Lint.Language
import Findings.Proofs.Sarif.PlainLog

/-!
Contract: the two shapes of a report.

Owns:
- `converted`, the text of the log of a report, from the text of the report;
- `ofResults_of_no_metadata`: without rule metadata a run lists no rules, whether or not it is told
  to;
- `shapes_agree`: an array of file results and an object that holds the same array, with whatever
  metadata and other members, are one report but for its rules.

All that the metadata of a report does is to fill the table of rules, and all that the table does is
to be written and to be pointed at.
-/

set_option autoImplicit false

namespace Findings.Sarif

open Findings.Lint

/-! ## Conversion from text to text -/

/-- Why a text is not converted. -/
inductive ConversionFault where
  | unreadable (error : ReadError)
  | unencodable (fault : Text.EncodeFault)
  | unwritable (error : Json.WriteError)
deriving DecidableEq

/-- The text of the log of the report that a text denotes. -/
def converted (options : Options) (text : Text) : Except ConversionFault Text := do
  let report ← (readReport text).mapError .unreadable
  let log ← (Log.ofReport options report).mapError .unencodable
  log.write.mapError .unwritable

/-- What a text is converted to depends on its log only. -/
theorem converted_congr {options : Options} {left right : Text} {leftReport rightReport : Report}
    (leftRead : readReport left = .ok leftReport) (rightRead : readReport right = .ok rightReport)
    (sameLog : Log.ofReport options leftReport = Log.ofReport options rightReport) :
    converted options left = converted options right := by
  unfold converted
  rw [leftRead, rightRead]
  show ((Log.ofReport options leftReport).mapError _ >>= _) = _
  rw [sameLog]
  rfl

/-! ## Runs without metadata -/

/-- Without metadata there is nothing to put into the table of rules. -/
theorem tables_of_no_metadata (options : Options) (sequence : List Emission) :
    Tables.of options [] sequence = ⟨(Tables.of options [] sequence).uris, []⟩ := by
  have nothing : sequence.filterMap (Emission.listedRule? options []) = [] := by
    rw [List.filterMap_eq_nil_iff]
    intro emission _
    unfold Emission.listedRule?
    split
    · exact Option.filter_eq_none_iff.2 fun _ _ => Bool.false_ne_true
    · rfl
  unfold Tables.of
  rw [nothing]
  rfl

/-- **Without metadata.**  A run makes the log that it makes with whatever metadata if it lists no
rules, or fails with the same fault. -/
theorem ofResults_of_no_metadata (options : Options) (rules : RuleTable) (files : List FileResult) :
    Log.ofResults options [] files =
      Log.ofResults { options with indexRules := false } rules files := by
  have sameEmissions : emissions { options with indexRules := false } files =
      emissions options files := rfl
  rw [ofResults_eq, ofResults_eq, sameEmissions, tables_of_no_metadata, tables_unindexed]
  rfl

/-! ## Two shapes -/

section Shapes

variable {bare wrapped : Text} {items : List Json} {members : Entries Json}

theorem readReport_of_array (isBare : Json.read bare = .ok (.array items)) :
    readReport bare = .ok { results := readResults items } := by
  rw [readReport_of_read isBare]
  rfl

theorem readReport_of_object (isWrapped : Json.read wrapped = .ok (.object members))
    (holds : Entries.find? "results" members = some (.array items)) :
    readReport wrapped = .ok { results := readResults items, rules := readRules members } := by
  have isArray : arrayMember members "results" = some items := arrayMember_eq_some_iff.2 holds
  rw [readReport_of_read isWrapped]
  simp only [reportOfJson, isArray]
  rfl

/-- **The two shapes of a report agree.**  An array of file results, and an object that holds the
array under `results`, whatever it holds under `metadata` and any other names, have the same file
results.  A run that lists no rules converts both to the same text or refuses both for the same
reason.  A run that lists rules makes of the array the log that it makes of the object, with the
table of rules emptied and without places among the rules, or fails with the same fault. -/
theorem shapes_agree (isBare : Json.read bare = .ok (.array items))
    (isWrapped : Json.read wrapped = .ok (.object members))
    (holds : Entries.find? "results" members = some (.array items)) (options : Options) :
    ∃ left right : Report, readReport bare = .ok left ∧ readReport wrapped = .ok right ∧
      left.results = right.results ∧
      converted { options with indexRules := false } bare =
        converted { options with indexRules := false } wrapped ∧
      (Log.ofReport { options with indexRules := true } left).map Log.toJson =
        (Log.ofReport { options with indexRules := true } right).map
          fun log => withoutRules log.toJson := by
  have leftRead := readReport_of_array isBare
  have rightRead := readReport_of_object isWrapped holds
  refine ⟨_, _, leftRead, rightRead, rfl, ?unindexed, ?indexed⟩
  case unindexed =>
    apply converted_congr leftRead rightRead
    exact ofResults_of_no_metadata { options with indexRules := false } (readRules members)
      (readResults items)
  case indexed =>
    show (Log.ofResults { options with indexRules := true } [] (readResults items)).map Log.toJson =
      (Log.ofResults { options with indexRules := true } (readRules members)
        (readResults items)).map fun log => withoutRules log.toJson
    rw [ofResults_of_no_metadata { options with indexRules := true } (readRules members),
      ofResults_unindexed { options with indexRules := true }]
    cases Log.ofResults { options with indexRules := true } (readRules members)
        (readResults items) with
    | error fault => rfl
    | ok log => exact congrArg Except.ok (toJson_unindexed log)

end Shapes

/-- A report of one message as an array. -/
def bareSource : Text :=
  "[\x7b\"filePath\": \"a.js\", \"messages\": [\x7b\"ruleId\": \"semi\", \"message\": 1\x7d]\x7d]"

/-- The same report with metadata of its rule. -/
def wrappedSource : Text :=
  Text.ofString "\x7b\"metadata\": \x7b\"rulesMeta\": \x7b\"semi\": \x7b\x7d\x7d\x7d, \"results\": "
    ++ bareSource ++ Text.ofString "\x7d"

/-- The items of the small report. -/
def sampleItems : List Json :=
  [.object [("filePath", .text "a.js"),
    ("messages", .array [.object [("ruleId", .text "semi"), ("message", .int 1)]])]]

set_option maxRecDepth 1000 in
theorem shapes_agree_sample :
    ∃ left right : Report, readReport bareSource = .ok left ∧ readReport wrappedSource = .ok right ∧
      left.rules ≠ right.rules ∧ left.results = right.results ∧
      converted { sampleOptions with indexRules := false } bareSource =
        converted { sampleOptions with indexRules := false } wrappedSource := by
  have isBare : Json.read bareSource = .ok (.array sampleItems) := by
    with_unfolding_all rfl
  have isWrapped : Json.read wrappedSource = .ok (.object
      [("metadata", .object [("rulesMeta", .object [("semi", .object [])])]),
        ("results", .array sampleItems)]) := by with_unfolding_all rfl
  obtain ⟨left, right, leftRead, rightRead, sameResults, sameText, -⟩ :=
    shapes_agree isBare isWrapped rfl sampleOptions
  refine ⟨left, right, leftRead, rightRead, ?_, sameResults, sameText⟩
  rw [readReport_of_array isBare] at leftRead
  rw [readReport_of_object isWrapped rfl] at rightRead
  cases leftRead
  cases rightRead
  decide

end Findings.Sarif
