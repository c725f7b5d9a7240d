import Findings.Lint.Reader
import Findings.Proofs.Json.Source
import Findings.Proofs.Json.Spelling

/-!
Contract: reports in which every surrogate pair is joined.

Owns:
- `Report.IsJoined`, that no text of a report holds an unjoined surrogate pair, part by part;
- `readReport_isJoined`: a report that is read from a text that spells no such pair is joined.
-/

set_option autoImplicit false

namespace Findings.Lint

/-! ## Joined reports -/

structure Suppression.IsJoined (suppression : Suppression) : Prop where
  kind : suppression.kind.IsJoined
  justification : ∀ justification ∈ suppression.justification, justification.IsJoined

structure Message.IsJoined (message : Message) : Prop where
  text : message.text.IsJoined
  ruleId : ∀ ruleId ∈ message.ruleId, ruleId.IsJoined
  source : ∀ source ∈ message.source, source.IsJoined
  suppressions : ∀ suppressions ∈ message.suppressions, ∀ suppression ∈ suppressions,
    suppression.IsJoined

structure FileResult.IsJoined (file : FileResult) : Prop where
  path : file.path.IsJoined
  messages : ∀ message ∈ file.messages, message.IsJoined
  suppressedMessages : ∀ message ∈ file.suppressedMessages, message.IsJoined

structure RuleDocs.IsJoined (docs : RuleDocs) : Prop where
  description : ∀ description ∈ docs.description, description.IsJoined
  url : ∀ url ∈ docs.url, url.IsJoined
  category : ∀ category ∈ docs.category, category.IsJoined

structure RuleMeta.IsJoined (known : RuleMeta) : Prop where
  docs : ∀ docs ∈ known.docs, docs.IsJoined
  kind : ∀ kind ∈ known.kind, kind.IsJoined

/-- No text of a report holds an unjoined surrogate pair. -/
structure Report.IsJoined (report : Report) : Prop where
  results : ∀ file ∈ report.results, file.IsJoined
  ruleIds : ∀ entry ∈ report.rules, entry.1.IsJoined
  rules : ∀ entry ∈ report.rules, ∀ known ∈ entry.2, known.IsJoined

/-! ## Members -/

theorem isJoined_objects {items : List Json} (joined : Json.IsJoined (.array items)) :
    ∀ inner ∈ items.filterMap Json.object?, Json.IsJoined (.object inner) := by
  intro inner isInner
  obtain ⟨item, isItem, isObject⟩ := List.mem_filterMap.1 isInner
  cases item with
  | object inner =>
      cases isObject
      exact Json.isJoined_array_iff.1 joined _ isItem
  | _ => cases isObject

section Members

variable {members : Entries Json} (joined : Json.IsJoined (.object members))

include joined

theorem isJoined_textMember (name : Text) : ∀ text ∈ textMember members name, text.IsJoined := by
  intro text isMember
  obtain ⟨value, found, isText⟩ := Option.bind_eq_some_iff.1 isMember
  cases value with
  | text value =>
      cases isText
      exact Json.isJoined_text_iff.1 (joined.find? found)
  | _ => cases isText

theorem isJoined_properTextMember (name : Text) :
    ∀ text ∈ properTextMember members name, text.IsJoined := fun text isMember =>
  isJoined_textMember joined name text (Option.filter_eq_some_iff.1 isMember).1

theorem isJoined_spelledMember (name : Text) : (spelledMember members name).IsJoined := by
  unfold spelledMember
  split
  · rename_i found
    exact (joined.find? found).spelling
  · exact Text.isJoined_nil

theorem isJoined_objectMember (name : Text) :
    ∀ inner ∈ objectMember members name, Json.IsJoined (.object inner) := by
  intro inner isMember
  obtain ⟨value, found, isObject⟩ := Option.bind_eq_some_iff.1 isMember
  cases value with
  | object inner =>
      cases isObject
      exact joined.find? found
  | _ => cases isObject

/-- The objects in an array under a name. -/
theorem isJoined_arrayMember (name : Text) :
    ∀ items ∈ arrayMember members name, ∀ inner ∈ items.filterMap Json.object?,
      Json.IsJoined (.object inner) := by
  intro items isMember
  obtain ⟨value, found, isArray⟩ := Option.bind_eq_some_iff.1 isMember
  cases value with
  | array items =>
      cases isArray
      exact isJoined_objects (joined.find? found)
  | _ => cases isArray

/-! ## Parts of a report -/

theorem isJoined_readSuppression : (readSuppression members).IsJoined where
  kind := isJoined_spelledMember joined _
  justification := isJoined_textMember joined _

theorem isJoined_readMessage : (readMessage members).IsJoined where
  text := isJoined_spelledMember joined _
  ruleId := isJoined_properTextMember joined _
  source := isJoined_textMember joined _
  suppressions := by
    intro suppressions isMember suppression isSuppression
    obtain ⟨items, isArray, equal⟩ := Option.map_eq_some_iff.1 isMember
    rw [← equal] at isSuppression
    obtain ⟨inner, isInner, isRead⟩ := List.mem_map.1 isSuppression
    rw [← isRead]
    exact isJoined_readSuppression (isJoined_arrayMember joined _ items isArray inner isInner)

theorem isJoined_readMessages (name : Text) :
    ∀ message ∈ readMessages members name, message.IsJoined := by
  intro message isMessage
  obtain ⟨inner, isInner, isRead⟩ := List.mem_map.1 isMessage
  rw [← isRead]
  cases listed : arrayMember members name with
  | none =>
      rw [listed] at isInner
      cases isInner
  | some items =>
      rw [listed] at isInner
      exact isJoined_readMessage (isJoined_arrayMember joined name items listed inner isInner)

theorem isJoined_readFileResult? : ∀ file ∈ readFileResult? members, file.IsJoined := by
  intro file isFile
  obtain ⟨path, isPath, equal⟩ := Option.map_eq_some_iff.1 isFile
  rw [← equal]
  exact {
    path := isJoined_properTextMember joined _ path isPath
    messages := isJoined_readMessages joined _
    suppressedMessages := isJoined_readMessages joined _ }

theorem isJoined_readDocs : (readDocs members).IsJoined where
  description := isJoined_textMember joined _
  url := isJoined_textMember joined _
  category := isJoined_textMember joined _

end Members

theorem isJoined_readRuleMeta? {value : Json} (joined : value.IsJoined) :
    ∀ known ∈ readRuleMeta? value, known.IsJoined := by
  intro known isKnown
  cases value with
  | object members =>
      cases isKnown
      exact {
        docs := by
          intro docs isDocs
          obtain ⟨inner, isInner, equal⟩ := Option.map_eq_some_iff.1 isDocs
          rw [← equal]
          exact isJoined_readDocs (isJoined_objectMember joined _ inner isInner)
        kind := isJoined_textMember joined _ }
  | _ => cases isKnown

theorem isJoined_readRules {members : Entries Json} (joined : Json.IsJoined (.object members)) :
    ∀ entry ∈ readRules members, entry.1.IsJoined ∧ ∀ known ∈ entry.2, known.IsJoined := by
  intro entry isEntry
  unfold readRules at isEntry
  split at isEntry
  · rename_i rules found
    obtain ⟨metadata, isMetadata, isRules⟩ := Option.bind_eq_some_iff.1 found
    have rulesJoined := isJoined_objectMember (isJoined_objectMember joined _ metadata isMetadata)
      _ rules isRules
    obtain ⟨source, isSource, equal⟩ := List.mem_map.1 isEntry
    obtain ⟨nameJoined, valueJoined⟩ := Json.isJoined_object_iff.1 rulesJoined source isSource
    rw [← equal]
    exact ⟨nameJoined, isJoined_readRuleMeta? valueJoined⟩
  · cases isEntry

theorem isJoined_readResults {items : List Json}
    (joined : ∀ inner ∈ items.filterMap Json.object?, Json.IsJoined (.object inner)) :
    ∀ file ∈ readResults items, file.IsJoined := by
  intro file isFile
  obtain ⟨inner, isInner, isRead⟩ := List.mem_filterMap.1 isFile
  exact isJoined_readFileResult? (joined inner isInner) file isRead

/-! ## Reports -/

theorem isJoined_reportOfJson {value : Json} (joined : value.IsJoined) {report : Report}
    (denoted : reportOfJson value = .ok report) : report.IsJoined := by
  cases value with
  | array items =>
      cases denoted
      exact {
        results := isJoined_readResults (isJoined_objects joined)
        ruleIds := fun entry member => by cases member
        rules := fun entry member => by cases member }
  | object members =>
      simp only [reportOfJson] at denoted
      split at denoted
      · rename_i items listed
        cases denoted
        exact {
          results := isJoined_readResults (isJoined_arrayMember joined _ items listed)
          ruleIds := fun entry member => (isJoined_readRules joined entry member).1
          rules := fun entry member => (isJoined_readRules joined entry member).2 }
      · cases denoted
  | _ => cases denoted

/-- **A report is joined**, if it is read from a text that spells no unjoined surrogate pair. -/
theorem readReport_isJoined {text : Text} (spelled : Json.SpellsJoined text) {report : Report}
    (read : readReport text = .ok report) : report.IsJoined := by
  unfold readReport at read
  split at read
  · cases read
  · cases read
  · rename_i value isRead
    cases denoted : reportOfJson value with
    | error fault =>
        rw [denoted] at read
        cases read
    | ok whole =>
        rw [denoted] at read
        cases read
        exact isJoined_reportOfJson (Json.read_isJoined spelled isRead) denoted

end Findings.Lint
