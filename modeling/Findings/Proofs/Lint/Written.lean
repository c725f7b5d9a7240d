import Findings.Lint.Basic
import Findings.Proofs.Except
import Findings.Sarif.Encoding

/-!
Contract: lint reports as JSON documents.

Owns: the written forms of a report, part by part.  A part that is not there is written as null or
left out, independently of every other; only a rule without metadata is always written as null.

Does not own: how a document is laid out as text, and how it is read back
(`Findings.Proofs.Lint.RoundTrip`).
-/

set_option autoImplicit false

namespace Findings.Lint

open Sarif (member member?)

/-! ## Optional and repeated parts -/

section Parts

variable {α : Type}

/-- How a part that can be missing is shown. -/
inductive Shows (writes : α → Json → Prop) : Option α → Option Json → Prop where
  | present {value : α} {json : Json} (isWritten : writes value json) :
      Shows writes (some value) (some json)
  | null : Shows writes none (some .null)
  | missing : Shows writes none none

/-- A list is written as the array of the written forms of its items. -/
inductive ListIsWritten (writes : α → Json → Prop) (values : List α) : Json → Prop where
  | array {items : List Json} (areWritten : List.Forall₂ writes values items) :
      ListIsWritten writes values (.array items)

/-- There is just one written form. -/
def WrittenAs (encode : α → Json) (value : α) (json : Json) : Prop := json = encode value

end Parts

/-! ## Reports -/

inductive Suppression.IsWritten (suppression : Suppression) : Json → Prop where
  | object {justification : Option Json}
      (isJustification : Shows (WrittenAs .text) suppression.justification justification) :
      IsWritten suppression (.object (member "kind" (.text suppression.kind)
        ++ member? "justification" justification id))

inductive Message.IsWritten (message : Message) : Json → Prop where
  | object {ruleId line column endLine endColumn source suppressions : Option Json}
      (isRuleId : Shows (WrittenAs .text) message.ruleId ruleId)
      (isLine : Shows (WrittenAs .int) message.line line)
      (isColumn : Shows (WrittenAs .int) message.column column)
      (isEndLine : Shows (WrittenAs .int) message.endLine endLine)
      (isEndColumn : Shows (WrittenAs .int) message.endColumn endColumn)
      (isSource : Shows (WrittenAs .text) message.source source)
      (areSuppressions : Shows (ListIsWritten Suppression.IsWritten) message.suppressions
        suppressions) :
      IsWritten message (.object (member? "ruleId" ruleId id
        ++ member "severity" (.int message.severity)
        ++ member "fatal" (.bool message.fatal)
        ++ member "message" (.text message.text)
        ++ member? "line" line id
        ++ member? "column" column id
        ++ member? "endLine" endLine id
        ++ member? "endColumn" endColumn id
        ++ member? "source" source id
        ++ member? "suppressions" suppressions id))

inductive FileResult.IsWritten (file : FileResult) : Json → Prop where
  | object {messages suppressedMessages : Json}
      (areMessages : ListIsWritten Message.IsWritten file.messages messages)
      (areSuppressed : ListIsWritten Message.IsWritten file.suppressedMessages
        suppressedMessages) :
      IsWritten file (.object (member "filePath" (.text file.path)
        ++ member "messages" messages
        ++ member "suppressedMessages" suppressedMessages))

inductive RuleDocs.IsWritten (docs : RuleDocs) : Json → Prop where
  | object {description url category : Option Json}
      (isDescription : Shows (WrittenAs .text) docs.description description)
      (isUrl : Shows (WrittenAs .text) docs.url url)
      (isCategory : Shows (WrittenAs .text) docs.category category) :
      IsWritten docs (.object (member? "description" description id
        ++ member? "url" url id
        ++ member? "category" category id))

inductive RuleMeta.IsWritten (known : RuleMeta) : Json → Prop where
  | object {kind docs : Option Json}
      (isKind : Shows (WrittenAs .text) known.kind kind)
      (areDocs : Shows RuleDocs.IsWritten known.docs docs) :
      IsWritten known (.object (member? "type" kind id ++ member? "docs" docs id))

/-- A rule in the table of a report, under its id. -/
inductive RuleIsWritten : Text × Option RuleMeta → Text × Json → Prop where
  | known {ruleId : Text} {known : RuleMeta} {json : Json} (isWritten : known.IsWritten json) :
      RuleIsWritten (ruleId, some known) (ruleId, json)
  | unknown {ruleId : Text} : RuleIsWritten (ruleId, none) (ruleId, .null)

inductive Report.IsWritten (report : Report) : Json → Prop where
  | object {results : Json} {rules : List (Text × Json)}
      (areResults : ListIsWritten FileResult.IsWritten report.results results)
      (areRules : List.Forall₂ RuleIsWritten report.rules rules) :
      IsWritten report (.object (member "results" results
        ++ member "metadata" (.object (member "rulesMeta" (.object rules)))))

/-! ## Every report has a written form -/

section Existence

variable {α : Type} {writes : α → Json → Prop}

theorem exists_shows (value : Option α) (hasForm : ∀ inner, ∃ json, writes inner json) :
    ∃ shown, Shows writes value shown := by
  cases value with
  | none => exact ⟨_, .null⟩
  | some inner =>
      obtain ⟨json, isWritten⟩ := hasForm inner
      exact ⟨_, .present isWritten⟩

theorem exists_shows_as (encode : α → Json) (value : Option α) :
    ∃ shown, Shows (WrittenAs encode) value shown :=
  exists_shows value fun inner => ⟨encode inner, rfl⟩

theorem exists_forall₂ {β : Type} {related : α → β → Prop} (values : List α)
    (hasForm : ∀ value, ∃ other, related value other) :
    ∃ others, List.Forall₂ related values others := by
  induction values with
  | nil => exact ⟨[], .nil⟩
  | cons value values inductionHypothesis =>
      obtain ⟨first, isFirst⟩ := hasForm value
      obtain ⟨others, areOthers⟩ := inductionHypothesis
      exact ⟨first :: others, .cons isFirst areOthers⟩

theorem exists_listIsWritten (values : List α) (hasForm : ∀ value, ∃ json, writes value json) :
    ∃ json, ListIsWritten writes values json := by
  obtain ⟨items, areWritten⟩ := exists_forall₂ values hasForm
  exact ⟨_, .array areWritten⟩

end Existence

theorem Suppression.exists_isWritten (suppression : Suppression) :
    ∃ json, suppression.IsWritten json := by
  obtain ⟨justification, isJustification⟩ := exists_shows_as .text suppression.justification
  exact ⟨_, .object isJustification⟩

theorem Message.exists_isWritten (message : Message) : ∃ json, message.IsWritten json := by
  obtain ⟨ruleId, isRuleId⟩ := exists_shows_as .text message.ruleId
  obtain ⟨line, isLine⟩ := exists_shows_as .int message.line
  obtain ⟨column, isColumn⟩ := exists_shows_as .int message.column
  obtain ⟨endLine, isEndLine⟩ := exists_shows_as .int message.endLine
  obtain ⟨endColumn, isEndColumn⟩ := exists_shows_as .int message.endColumn
  obtain ⟨source, isSource⟩ := exists_shows_as .text message.source
  obtain ⟨suppressions, areSuppressions⟩ := exists_shows message.suppressions fun suppressions =>
    exists_listIsWritten suppressions Suppression.exists_isWritten
  exact ⟨_, .object isRuleId isLine isColumn isEndLine isEndColumn isSource areSuppressions⟩

theorem FileResult.exists_isWritten (file : FileResult) : ∃ json, file.IsWritten json := by
  obtain ⟨messages, areMessages⟩ := exists_listIsWritten file.messages Message.exists_isWritten
  obtain ⟨suppressed, areSuppressed⟩ :=
    exists_listIsWritten file.suppressedMessages Message.exists_isWritten
  exact ⟨_, .object areMessages areSuppressed⟩

theorem RuleDocs.exists_isWritten (docs : RuleDocs) : ∃ json, docs.IsWritten json := by
  obtain ⟨description, isDescription⟩ := exists_shows_as .text docs.description
  obtain ⟨url, isUrl⟩ := exists_shows_as .text docs.url
  obtain ⟨category, isCategory⟩ := exists_shows_as .text docs.category
  exact ⟨_, .object isDescription isUrl isCategory⟩

theorem exists_ruleIsWritten (entry : Text × Option RuleMeta) :
    ∃ shown, RuleIsWritten entry shown := by
  obtain ⟨ruleId, known⟩ := entry
  cases known with
  | none => exact ⟨_, .unknown⟩
  | some known =>
      obtain ⟨kind, isKind⟩ := exists_shows_as .text known.kind
      obtain ⟨docs, areDocs⟩ := exists_shows known.docs RuleDocs.exists_isWritten
      exact ⟨_, .known (.object isKind areDocs)⟩

theorem Report.exists_isWritten (report : Report) : ∃ document, report.IsWritten document := by
  obtain ⟨results, areResults⟩ := exists_listIsWritten report.results FileResult.exists_isWritten
  obtain ⟨rules, areRules⟩ := exists_forall₂ report.rules exists_ruleIsWritten
  exact ⟨_, .object areResults areRules⟩

end Findings.Lint
