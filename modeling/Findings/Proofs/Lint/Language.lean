import Findings.Proofs.Json.Language
import Findings.Proofs.Lint.Shape

/-!
Contract: which texts are reports, and what is read of them.

Owns:
- `HoldsResults`, that a text is an array of results, or an object in which the last member of that
  name is one;
- `readReport_language`: a text without integers that are too long is refused if and only if it
  holds no results, and otherwise read with one file result for each object with a path and one
  message for each object in its two arrays, in order.

Does not own: the grammar of JSON text (`Findings.Proofs.Json.Grammar`).
-/

set_option autoImplicit false

namespace Findings.Lint

/-- A text is a value that holds an array of results. -/
inductive HoldsResults (text : Text) : List Json → Prop where
  | array {items : List Json} (denotes : Json.Denotes text (.array items)) : HoldsResults text items
  /-- Of several members with the name, the last one counts. -/
  | object {start stop : Text} {before after : List (Text × Json)} {items : List Json}
      (begins : Json.Blanks text (CodePoint.ofChar '\x7b' :: start))
      (members : Json.Spells (.members (before ++ (Text.ofString "results", .array items) :: after))
        start (CodePoint.ofChar '\x7d' :: stop))
      (isLast : Text.ofString "results" ∉ Entries.keys after) (ends : Json.Blanks stop []) :
      HoldsResults text items

/-- The results that a value holds. -/
def resultsOf? : Json → Option (List Json)
  | .array items => some items
  | .object members => arrayMember members "results"
  | _ => none

theorem resultsOf?_eq_none_iff {value : Json} :
    resultsOf? value = none ↔ ∃ error, reportOfJson value = .error error := by
  cases value with
  | array items => simp [resultsOf?, reportOfJson]
  | object members =>
      rw [resultsOf?, reportOfJson]
      cases arrayMember members "results" <;> simp
  | _ => simp [resultsOf?, reportOfJson]

theorem results_of_reportOfJson {value : Json} {report : Report}
    (isReport : reportOfJson value = .ok report) :
    ∃ items, resultsOf? value = some items ∧ report.results = readResults items := by
  cases value with
  | array items =>
      cases isReport
      exact ⟨items, rfl, rfl⟩
  | object members =>
      rw [reportOfJson] at isReport
      rw [resultsOf?]
      cases found : arrayMember members "results" with
      | none =>
          rw [found] at isReport
          cases isReport
      | some items =>
          rw [found] at isReport
          cases isReport
          exact ⟨items, rfl, rfl⟩
  | _ => cases isReport

section Texts

variable {text : Text}

/-- An object that is denoted is spelled by its members. -/
theorem exists_members_of_denotes {members : Entries Json}
    (denotes : Json.Denotes text (.object members)) {name : Text} {value : Json}
    (found : Entries.find? name members = some value) :
    ∃ start stop before after, Json.Blanks text (CodePoint.ofChar '\x7b' :: start) ∧
      Json.Spells (.members (before ++ (name, value) :: after)) start
        (CodePoint.ofChar '\x7d' :: stop) ∧
      name ∉ Entries.keys after ∧ Json.Blanks stop [] := by
  cases denotes with
  | element begins isValue ends =>
      cases isValue with
      | word isWord => cases isWord
      | number isNumber => cases isNumber
      | emptyObject => cases found
      | object isMembers =>
          obtain ⟨before, after, rfl, isLast⟩ := (Entries.find?_ofPairs_eq_some_iff _).1 found
          exact ⟨_, _, before, after, begins, isMembers, isLast, ends⟩

/-- What holds results is a value that is read and holds them. -/
theorem holdsResults_iff (short : ¬ Json.HasLongInteger text) {items : List Json} :
    HoldsResults text items ↔
      ∃ value, Json.read text = .ok value ∧ resultsOf? value = some items := by
  constructor
  · intro holds
    cases holds with
    | array denotes => exact ⟨_, Json.read_of_denotes short denotes, rfl⟩
    | @object start stop before after _ begins members isLast ends =>
        have denotes := Json.Spells.element begins (.object members) ends
        refine ⟨_, Json.read_of_denotes short denotes, ?_⟩
        exact arrayMember_eq_some_iff.2
          ((Entries.find?_ofPairs_eq_some_iff _).2 ⟨before, after, rfl, isLast⟩)
  · rintro ⟨value, isRead, holds⟩
    have denotes := Json.denotes_of_read isRead
    cases value with
    | array inner =>
        cases holds
        exact .array denotes
    | object members =>
        obtain ⟨start, stop, before, after, begins, isMembers, isLast, ends⟩ :=
          exists_members_of_denotes denotes (arrayMember_eq_some_iff.1 holds)
        exact .object begins isMembers isLast ends
    | _ => cases holds

theorem readReport_of_read {value : Json} (isRead : Json.read text = .ok value) :
    readReport text = (reportOfJson value).mapError .report := by
  unfold readReport
  rw [isRead]

/-- What is no report is no value, or a value that holds no results. -/
theorem readReport_eq_error_iff {error : ReportError} :
    readReport text = .error (.report error) ↔
      (∃ fault place, Json.read text = .error (.malformed fault place) ∧
        error = .malformed fault place) ∨
      ∃ value, Json.read text = .ok value ∧ reportOfJson value = .error error := by
  cases isRead : Json.read text with
  | error stop =>
      unfold readReport
      rw [isRead]
      cases stop <;> simp [eq_comm]
  | ok value =>
      rw [readReport_of_read isRead, mapError_eq_error_iff]
      simp

theorem readReport_eq_excessiveInteger {digits : Nat}
    (excessive : readReport text = .error (.excessiveInteger digits)) :
    Json.read text = .error (.excessiveInteger digits) := by
  cases isRead : Json.read text with
  | error stop =>
      unfold readReport at excessive
      rw [isRead] at excessive
      cases stop <;> cases excessive
      rfl
  | ok value =>
      rw [readReport_of_read isRead] at excessive
      obtain ⟨error, -, isError⟩ := mapError_eq_error_iff.1 excessive
      cases isError

theorem exists_read_of_readReport {report : Report} (isReport : readReport text = .ok report) :
    ∃ value, Json.read text = .ok value ∧ reportOfJson value = .ok report := by
  cases isRead : Json.read text with
  | error stop =>
      unfold readReport at isReport
      rw [isRead] at isReport
      cases stop <;> cases isReport
  | ok value =>
      rw [readReport_of_read isRead] at isReport
      exact ⟨value, rfl, mapError_eq_ok_iff.1 isReport⟩

/-- **Reports.**  A text without integers that are too long is refused as no report if and only if
it holds no results, and for no other reason.  In what is read no path and no rule id is empty, and
there is one file result for each object with a path, with one message for each object in its arrays
of messages and of suppressed messages, in order. -/
theorem readReport_language (short : ¬ Json.HasLongInteger text) :
    ((∃ error, readReport text = .error (.report error)) ↔ ¬ ∃ items, HoldsResults text items) ∧
    (∀ digits, readReport text ≠ .error (.excessiveInteger digits)) ∧
    ∀ report, readReport text = .ok report →
      (∀ file ∈ report.results, file.path ≠ [] ∧
        ∀ message ∈ file.messages ++ file.suppressedMessages, message.ruleId ≠ some []) ∧
      ∀ items, HoldsResults text items →
        List.Forall₂ FileResult.Describes (items.filterMap withPath?) report.results := by
  refine ⟨?refused, ?notExcessive, ?described⟩
  case refused =>
    simp only [holdsResults_iff short, readReport_eq_error_iff]
    constructor
    · rintro ⟨error, ⟨fault, place, noValue, -⟩ | ⟨value, isRead, isError⟩⟩
        ⟨items, other, isOther, holds⟩
      · rw [noValue] at isOther
        cases isOther
      · rw [isRead] at isOther
        cases isOther
        rw [resultsOf?_eq_none_iff.2 ⟨error, isError⟩] at holds
        cases holds
    · intro noResults
      cases isRead : Json.read text with
      | error stop =>
          cases stop with
          | malformed fault place => exact ⟨_, .inl ⟨fault, place, rfl, rfl⟩⟩
          | excessiveInteger digits => exact absurd (Json.hasLongInteger_of_read isRead) short
      | ok value =>
          have nothing : resultsOf? value = none := by
            rw [Option.eq_none_iff_forall_ne_some]
            exact fun items holds => noResults ⟨items, value, isRead, holds⟩
          obtain ⟨error, isError⟩ := resultsOf?_eq_none_iff.1 nothing
          exact ⟨error, .inr ⟨value, rfl, isError⟩⟩
  case notExcessive =>
    intro digits excessive
    exact short (Json.hasLongInteger_of_read (readReport_eq_excessiveInteger excessive))
  case described =>
    intro report isReport
    obtain ⟨value, isRead, isValue⟩ := exists_read_of_readReport isReport
    obtain ⟨items, holds, areResults⟩ := results_of_reportOfJson isValue
    rw [areResults]
    refine ⟨readResults_proper items, fun others holdsOthers => ?_⟩
    obtain ⟨other, isOther, holdsOther⟩ := (holdsResults_iff short).1 holdsOthers
    rw [isRead] at isOther
    cases isOther
    rw [holds] at holdsOther
    cases holdsOther
    exact readResults_describes items

end Texts

/-- Of two members `results` the last one is an array, in which one of three items has a path. -/
def repeatedResults : Text :=
  "\x7b\"results\": 7, \"results\": [\x7b\"filePath\": \"a.js\"\x7d, \x7b\"filePath\": \"\"\x7d, null]\x7d"

/-- A comma behind the last item is no report; of several members the last one is. -/
theorem readReport_language_sample :
    (¬ ∃ items, HoldsResults "[1,]" items) ∧ (∃ items, HoldsResults repeatedResults items) ∧
      readReport repeatedResults = .ok { results := [{ path := "a.js" }] } := by
  have isShort : ∀ text : Text, text.length ≤ Numeral.maxDigits → ¬ Json.HasLongInteger text :=
    fun text short long => absurd long.length (Nat.not_lt.2 short)
  have refused := readReport_language (isShort "[1,]" (by decide))
  have accepted := readReport_language (isShort repeatedResults (by decide +kernel))
  have isReport : readReport repeatedResults = .ok { results := [{ path := "a.js" }] } :=
    eq_ok_of_toOption (by decide +kernel)
  have isError : readReport "[1,]" = .error (.report (.malformed .expectingValue ⟨1, 4, 3⟩)) := by
    with_unfolding_all rfl
  refine ⟨refused.1.1 ⟨_, isError⟩, ?_, isReport⟩
  by_contra nothing
  obtain ⟨error, isRefused⟩ := accepted.1.2 nothing
  rw [isReport] at isRefused
  cases isRefused

end Findings.Lint
