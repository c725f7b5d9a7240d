import Findings.Lint.Reader
import Findings.Proofs.Lint.Joined
import Findings.Proofs.Lint.Written
import Findings.Proofs.Sarif.Document
import Findings.Proofs.Sarif.Members

/-!
Contract: a written lint report is read back.

Owns:
- `Report.IsRegular`, the reports that the format can tell apart;
- `read_written`: every regular report has a written form, and whichever form is taken and however it
  is laid out as text, the text can be written and is read as the report.

A form is read back in two steps: the text denotes the document because the document is plain and
holds no integer that is too long, and every part is found in the document under its name.
-/

set_option autoImplicit false

namespace Findings.Lint

open Sarif (member member? ArePlain arePlain_member)

/-! ## Regular reports -/

/-- An integer can be written. -/
def IsShort (value : Int) : Prop := (Text.ofNat value.natAbs).length ≤ Numeral.maxDigits

instance (value : Int) : Decidable (IsShort value) := inferInstanceAs (Decidable (_ ≤ _))

structure Message.IsRegular (message : Message) : Prop where
  ruleId : message.ruleId ≠ some []
  severity : IsShort message.severity
  line : ∀ line ∈ message.line, IsShort line
  column : ∀ column ∈ message.column, IsShort column
  endLine : ∀ endLine ∈ message.endLine, IsShort endLine
  endColumn : ∀ endColumn ∈ message.endColumn, IsShort endColumn

structure FileResult.IsRegular (file : FileResult) : Prop where
  path : file.path ≠ []
  messages : ∀ message ∈ file.messages, message.IsRegular
  suppressedMessages : ∀ message ∈ file.suppressedMessages, message.IsRegular

/-- No path and no rule id is empty, no integer is too long, no rule is listed twice, and every
surrogate pair is joined. -/
structure Report.IsRegular (report : Report) : Prop where
  results : ∀ file ∈ report.results, file.IsRegular
  rules : (Entries.keys report.rules).Nodup
  joined : report.IsJoined

/-! ## What is kept in text -/

/-- A value can be written, and is read back. -/
structure IsKept (value : Json) : Prop where
  plain : value.IsPlain
  writable : value.isWritable = true

/-- Members under some of the given names with values that are kept. -/
structure AreKept (names : List String) (members : List (Text × Json)) : Prop where
  plain : ArePlain names members
  writable : ∀ entry ∈ members, entry.2.isWritable = true

theorem areKept_member {name : String} {value : Json} (kept : IsKept value) :
    AreKept [name] (member name value) where
  plain := arePlain_member kept.plain
  writable := List.forall_mem_singleton.2 kept.writable

theorem areKept_member? {name : String} {value : Option Json} (kept : ∀ json ∈ value, IsKept json) :
    AreKept [name] (member? name value id) := by
  cases value with
  | none =>
      exact {
        plain := { keys := List.nil_sublist _, values := fun entry isEntry => by cases isEntry }
        writable := fun entry isEntry => by cases isEntry }
  | some json => exact areKept_member (kept json rfl)

theorem AreKept.append {leftNames rightNames : List String} {left right : List (Text × Json)}
    (leftKept : AreKept leftNames left) (rightKept : AreKept rightNames right) :
    AreKept (leftNames ++ rightNames) (left ++ right) where
  plain := leftKept.plain.append rightKept.plain
  writable := List.forall_mem_append.2 ⟨leftKept.writable, rightKept.writable⟩

theorem AreKept.isKept {names : List String} {members : List (Text × Json)}
    (kept : AreKept names members) (different : names.Nodup) : IsKept (.object members) where
  plain := kept.plain.isPlain different
  writable := (Json.membersAreWritable_iff members).2 kept.writable

theorem isKept_array {items : List Json} (kept : ∀ item ∈ items, IsKept item) :
    IsKept (.array items) where
  plain := .array fun item isItem => (kept item isItem).plain
  writable := (Json.areWritable_iff items).2 fun item isItem => (kept item isItem).writable

theorem isKept_text {text : Text} (joined : text.IsJoined) : IsKept (.text text) :=
  ⟨.text joined, rfl⟩

theorem isKept_int {value : Int} (short : IsShort value) : IsKept (.int value) :=
  ⟨.int value, decide_eq_true short⟩

theorem isKept_null : IsKept .null := ⟨.null, rfl⟩

section Parts

variable {α : Type} {writes : α → Json → Prop}

theorem Shows.isKept {value : Option α} {shown : Option Json} (shows_ : Shows writes value shown)
    (kept : ∀ inner ∈ value, ∀ json, writes inner json → IsKept json) :
    ∀ json ∈ shown, IsKept json := by
  intro json isJson
  cases shows_ with
  | present isWritten =>
      cases isJson
      exact kept _ rfl _ isWritten
  | null =>
      cases isJson
      exact isKept_null
  | missing => cases isJson

theorem ListIsWritten.isKept {values : List α} {json : Json}
    (isWritten : ListIsWritten writes values json)
    (kept : ∀ value ∈ values, ∀ json, writes value json → IsKept json) : IsKept json := by
  cases isWritten with
  | array areWritten =>
      refine isKept_array fun item isItem => ?_
      obtain ⟨value, isValue, written⟩ := exists_of_forall₂_right areWritten isItem
      exact kept value isValue item written

theorem Shows.isKept_text {value : Option Text} {shown : Option Json}
    (shows_ : Shows (WrittenAs .text) value shown)
    (joined : ∀ text ∈ value, text.IsJoined) : ∀ json ∈ shown, IsKept json :=
  shows_.isKept fun text isText _ isJson => isJson ▸ Lint.isKept_text (joined text isText)

theorem Shows.isKept_int {value : Option Int} {shown : Option Json}
    (shows_ : Shows (WrittenAs .int) value shown)
    (short : ∀ inner ∈ value, IsShort inner) : ∀ json ∈ shown, IsKept json :=
  shows_.isKept fun inner isInner _ isJson => isJson ▸ Lint.isKept_int (short inner isInner)

end Parts

theorem Suppression.IsWritten.isKept {suppression : Suppression} {json : Json}
    (isWritten : suppression.IsWritten json) (joined : suppression.IsJoined) : IsKept json := by
  cases isWritten with
  | object isJustification =>
      exact ((areKept_member (isKept_text joined.kind)).append
        (areKept_member? (isJustification.isKept_text joined.justification))).isKept (by decide)

theorem Message.IsWritten.isKept {message : Message} {json : Json}
    (isWritten : message.IsWritten json) (joined : message.IsJoined) (regular : message.IsRegular) :
    IsKept json := by
  cases isWritten with
  | object isRuleId isLine isColumn isEndLine isEndColumn isSource areSuppressions =>
      have suppressions := areSuppressions.isKept fun suppressions areThese json areWritten =>
        areWritten.isKept fun suppression isSuppression json isWritten =>
          isWritten.isKept (joined.suppressions suppressions areThese suppression isSuppression)
      exact (((((((((areKept_member? (isRuleId.isKept_text joined.ruleId)).append
        (areKept_member (isKept_int regular.severity))).append
        (areKept_member ⟨.bool _, rfl⟩)).append
        (areKept_member (isKept_text joined.text))).append
        (areKept_member? (isLine.isKept_int regular.line))).append
        (areKept_member? (isColumn.isKept_int regular.column))).append
        (areKept_member? (isEndLine.isKept_int regular.endLine))).append
        (areKept_member? (isEndColumn.isKept_int regular.endColumn))).append
        (areKept_member? (isSource.isKept_text joined.source))).append
        (areKept_member? suppressions) |>.isKept (by decide)

theorem FileResult.IsWritten.isKept {file : FileResult} {json : Json}
    (isWritten : file.IsWritten json) (joined : file.IsJoined) (regular : file.IsRegular) :
    IsKept json := by
  cases isWritten with
  | object areMessages areSuppressed =>
      have messages := areMessages.isKept fun message isMessage json isWritten =>
        isWritten.isKept (joined.messages message isMessage) (regular.messages message isMessage)
      have suppressed := areSuppressed.isKept fun message isMessage json isWritten =>
        isWritten.isKept (joined.suppressedMessages message isMessage)
          (regular.suppressedMessages message isMessage)
      exact (((areKept_member (isKept_text joined.path)).append (areKept_member messages)).append
        (areKept_member suppressed)).isKept (by decide)

theorem RuleDocs.IsWritten.isKept {docs : RuleDocs} {json : Json} (isWritten : docs.IsWritten json)
    (joined : docs.IsJoined) : IsKept json := by
  cases isWritten with
  | object isDescription isUrl isCategory =>
      exact (((areKept_member? (isDescription.isKept_text joined.description)).append
        (areKept_member? (isUrl.isKept_text joined.url))).append
        (areKept_member? (isCategory.isKept_text joined.category))).isKept (by decide)

theorem RuleMeta.IsWritten.isKept {known : RuleMeta} {json : Json}
    (isWritten : known.IsWritten json) (joined : known.IsJoined) : IsKept json := by
  cases isWritten with
  | object isKind areDocs =>
      have docs := areDocs.isKept fun docs areThese json isWritten =>
        isWritten.isKept (joined.docs docs areThese)
      exact ((areKept_member? (isKind.isKept_text joined.kind)).append
        (areKept_member? docs)).isKept (by decide)

/-! ## What is found in a document -/

section Parts

variable {α : Type} {writes : α → Json → Prop}

/-- A part that can be missing is found as it is, whether its absence is shown or not. -/
theorem Shows.bind_eq {value : Option α} {shown : Option Json} (shows_ : Shows writes value shown)
    {view : Json → Option α}
    (viewed : ∀ inner ∈ value, ∀ json, writes inner json → view json = some inner)
    (noNull : view .null = none) : shown.bind view = value := by
  cases shows_ with
  | present isWritten => exact viewed _ rfl _ isWritten
  | null => exact noNull
  | missing => rfl

theorem Shows.bind_text? {value : Option Text} {shown : Option Json}
    (shows_ : Shows (WrittenAs .text) value shown) : shown.bind Json.text? = value :=
  shows_.bind_eq (fun _ _ _ isJson => isJson ▸ rfl) rfl

theorem Shows.bind_int? {value : Option Int} {shown : Option Json}
    (shows_ : Shows (WrittenAs .int) value shown) : shown.bind Json.int? = value :=
  shows_.bind_eq (fun _ _ _ isJson => isJson ▸ rfl) rfl

/-- The items of a written list are found in order, and none of them is left out. -/
theorem ListIsWritten.exists_items {values : List α} {json : Json}
    (isWritten : ListIsWritten writes values json) {view : Entries Json → Option α}
    (viewed : ∀ value ∈ values, ∀ json, writes value json →
      json.object?.bind view = some value) :
    ∃ items, json = .array items ∧ (items.filterMap Json.object?).filterMap view = values := by
  cases isWritten with
  | @array items areWritten =>
      refine ⟨items, rfl, ?_⟩
      rw [List.filterMap_filterMap]
      induction areWritten with
      | nil => rfl
      | cons first _ inductionHypothesis =>
          have others := inductionHypothesis fun value isValue =>
            viewed value (List.mem_cons_of_mem _ isValue)
          have isFirst := viewed _ (List.mem_cons_self ..) _ first
          simp only [List.filterMap_cons, isFirst, others]

theorem ListIsWritten.exists_items_map {values : List α} {json : Json}
    (isWritten : ListIsWritten writes values json) {read : Entries Json → α}
    (isRead : ∀ value ∈ values, ∀ json, writes value json → json.object?.map read = some value) :
    ∃ items, json = .array items ∧ (items.filterMap Json.object?).map read = values := by
  obtain ⟨items, isArray, areValues⟩ := isWritten.exists_items fun value isValue json isWritten =>
    (Option.map_eq_bind ▸ isRead value isValue json isWritten :
      json.object?.bind (some ∘ read) = some value)
  exact ⟨items, isArray, List.filterMap_eq_map ▸ areValues⟩

end Parts

theorem Suppression.IsWritten.read {suppression : Suppression} {json : Json}
    (isWritten : suppression.IsWritten json) :
    json.object?.map readSuppression = some suppression := by
  cases isWritten with
  | object isJustification =>
      simp [readSuppression, Json.object?, spelledMember, textMember, Entries.find?_append,
        isJustification.bind_text?, Json.spelling]

theorem Message.IsWritten.read {message : Message} {json : Json}
    (isWritten : message.IsWritten json) (regular : message.IsRegular) :
    json.object?.map readMessage = some message := by
  cases isWritten with
  | @object _ _ _ _ _ _ suppressions isRuleId isLine isColumn isEndLine isEndColumn isSource
      areSuppressions =>
      have properId : message.ruleId.filter (fun ruleId => !ruleId.isEmpty) = message.ruleId := by
        cases isId : message.ruleId with
        | none => rfl
        | some ruleId =>
            cases ruleId with
            | nil => exact absurd isId regular.ruleId
            | cons => rfl
      have isSuppressions : (suppressions.bind Json.array?).map (fun items =>
          (items.filterMap Json.object?).map readSuppression) = message.suppressions := by
        rw [Option.map_bind]
        refine areSuppressions.bind_eq (fun _ _ _ areWritten => ?_) rfl
        obtain ⟨items, isArray, areThese⟩ :=
          areWritten.exists_items_map fun _ _ _ isWritten => isWritten.read
        rw [Function.comp_apply, isArray, ← areThese]
        rfl
      simp [readMessage, Json.object?, spelledMember, textMember, intMember, properTextMember,
        arrayMember, isTrueMember, Entries.find?_append, Json.spelling, isRuleId.bind_text?,
        properId, isLine.bind_int?, isColumn.bind_int?, isEndLine.bind_int?,
        isEndColumn.bind_int?, isSource.bind_text?, isSuppressions]
      rfl

theorem FileResult.IsWritten.read {file : FileResult} {json : Json}
    (isWritten : file.IsWritten json) (regular : file.IsRegular) :
    json.object?.bind readFileResult? = some file := by
  cases isWritten with
  | @object messages suppressed areMessages areSuppressed =>
      have path : (some file.path).filter (fun path => !path.isEmpty) = some file.path := by
        cases isPath : file.path with
        | nil => exact absurd isPath regular.path
        | cons => rfl
      obtain ⟨items, isArray, areMessages⟩ :=
        areMessages.exists_items_map fun message isMessage _ isWritten =>
          isWritten.read (regular.messages message isMessage)
      obtain ⟨others, areOthers, areSuppressed⟩ :=
        areSuppressed.exists_items_map fun message isMessage _ isWritten =>
          isWritten.read (regular.suppressedMessages message isMessage)
      simp [readFileResult?, readMessages, Json.object?, properTextMember, textMember, arrayMember,
        Entries.find?_append, isArray, areOthers, Json.text?, Json.array?, path, areMessages,
        areSuppressed]

theorem RuleDocs.IsWritten.read {docs : RuleDocs} {json : Json} (isWritten : docs.IsWritten json) :
    json.object?.map readDocs = some docs := by
  cases isWritten with
  | object isDescription isUrl isCategory =>
      simp [readDocs, Json.object?, textMember, Entries.find?_append, isDescription.bind_text?,
        isUrl.bind_text?, isCategory.bind_text?]

theorem RuleMeta.IsWritten.read {known : RuleMeta} {json : Json}
    (isWritten : known.IsWritten json) :
    readRuleMeta? json = some known := by
  cases isWritten with
  | @object kind docs isKind areDocs =>
      have isDocs : docs.bind (Option.map readDocs ∘ Json.object?) = known.docs :=
        areDocs.bind_eq (fun _ _ _ isWritten => isWritten.read) rfl
      simp [readRuleMeta?, Json.object?, textMember, objectMember, Entries.find?_append,
        isKind.bind_text?, Option.map_bind, isDocs]

/-! ## Rules -/

section Rules

variable {table : RuleTable} {rules : List (Text × Json)}

theorem keys_of_areWritten (areWritten : List.Forall₂ RuleIsWritten table rules) :
    Entries.keys rules = Entries.keys table := by
  unfold Entries.keys
  induction areWritten with
  | nil => rfl
  | cons first _ inductionHypothesis =>
      rw [List.map_cons, List.map_cons, inductionHypothesis]
      cases first <;> rfl

theorem mapValues_of_areWritten (areWritten : List.Forall₂ RuleIsWritten table rules) :
    Entries.mapValues readRuleMeta? rules = table := by
  unfold Entries.mapValues
  induction areWritten with
  | nil => rfl
  | cons first _ inductionHypothesis =>
      rw [List.map_cons, inductionHypothesis]
      cases first with
      | known isWritten => rw [isWritten.read]
      | unknown => rfl

theorem isKept_rules (areWritten : List.Forall₂ RuleIsWritten table rules)
    (nodup : (Entries.keys table).Nodup) (ruleIds : ∀ entry ∈ table, entry.1.IsJoined)
    (joined : ∀ entry ∈ table, ∀ known ∈ entry.2, known.IsJoined) : IsKept (.object rules) := by
  have kept : ∀ shown ∈ rules, IsKept shown.2 ∧ shown.1.IsJoined := by
    intro shown isShown
    obtain ⟨entry, isEntry, isWritten⟩ := exists_of_forall₂_right areWritten isShown
    cases isWritten with
    | known isWritten => exact ⟨isWritten.isKept (joined _ isEntry _ rfl), ruleIds _ isEntry⟩
    | unknown => exact ⟨isKept_null, ruleIds _ isEntry⟩
  rw [← keys_of_areWritten areWritten] at nodup
  exact {
    plain := .object nodup (fun shown isShown => (kept shown isShown).2) fun shown isShown =>
      (kept shown isShown).1.plain
    writable := (Json.membersAreWritable_iff rules).2 fun shown isShown =>
      (kept shown isShown).1.writable }

end Rules

/-! ## Reports -/

theorem Report.IsWritten.isKept {report : Report} {document : Json}
    (isWritten : report.IsWritten document) (regular : report.IsRegular) : IsKept document := by
  cases isWritten with
  | @object _ rules areResults areRules =>
      have results := areResults.isKept fun file isFile _ isWritten =>
        isWritten.isKept (regular.joined.results file isFile) (regular.results file isFile)
      have table := isKept_rules areRules regular.rules regular.joined.ruleIds regular.joined.rules
      have metadata : IsKept (.object (member "rulesMeta" (.object rules))) :=
        (areKept_member table).isKept (by decide)
      exact ((areKept_member results).append (areKept_member metadata)).isKept (by decide)

/-- The report is found in each of its written forms. -/
theorem Report.IsWritten.read {report : Report} {document : Json}
    (isWritten : report.IsWritten document) (regular : report.IsRegular) :
    reportOfJson document = .ok report := by
  cases isWritten with
  | object areResults areRules =>
      obtain ⟨items, isArray, areFiles⟩ := areResults.exists_items fun file isFile _ isWritten =>
        isWritten.read (regular.results file isFile)
      have rules := mapValues_of_areWritten areRules
      simp [reportOfJson, readRules, readResults, arrayMember, objectMember, Entries.find?_append,
        isArray, Json.array?, Json.object?, areFiles, rules]

/-- **What is written of a regular report is read back.**  There is a document for it, and whichever
parts that are not there are shown as null in the document, and whatever blanks stand between its
parts, the document can be written and its text is read as the report. -/
theorem read_written {report : Report} (regular : report.IsRegular) :
    (∃ document, report.IsWritten document) ∧
      ∀ document, report.IsWritten document → ∀ layout : Json.Layout,
        ∃ text, document.writeWith layout = .ok text ∧ readReport text = .ok report := by
  refine ⟨report.exists_isWritten, fun document isWritten layout => ?_⟩
  have kept := isWritten.isKept regular
  have written : document.writeWith layout = .ok (Json.renderWith layout 0 document) :=
    Json.writeWith_eq_ok_iff.2 ⟨kept.writable, rfl⟩
  refine ⟨_, written, ?_⟩
  unfold readReport
  rw [Json.read_of_writeWith kept.plain written]
  dsimp only
  rw [isWritten.read regular]
  rfl

/-- A message that is suppressed without a reason. -/
def suppressedMessage : Message where
  text := "unused"
  ruleId := some (Text.ofString "no-unused")
  line := some 3
  suppressions := some [{ kind := "directive" }]

/-- The rule of the message is listed without metadata. -/
def suppressedReport : Report where
  results := [{ path := "a.js", suppressedMessages := [suppressedMessage] }]
  rules := [(Text.ofString "no-unused", none)]

/-- The reason is shown as null, and so is the column; what else is missing is left out. -/
def suppressedDocument : Json := .object (
  member "results" (.array [.object (
    member "filePath" (.text "a.js")
      ++ member "messages" (.array [])
      ++ member "suppressedMessages" (.array [.object (
        member "ruleId" (.text "no-unused")
          ++ member "severity" (.int 1)
          ++ member "fatal" (.bool false)
          ++ member "message" (.text "unused")
          ++ member "line" (.int 3)
          ++ member "column" .null
          ++ member "suppressions" (.array [.object (
            member "kind" (.text "directive") ++ member "justification" .null)]))]))])
    ++ member "metadata" (.object (
      member "rulesMeta" (.object [(Text.ofString "no-unused", .null)]))))

theorem read_written_sample :
    suppressedReport.IsRegular ∧ suppressedReport.IsWritten suppressedDocument ∧
      ∃ text, suppressedDocument.writeWith .line = .ok text ∧
        readReport text = .ok suppressedReport := by
  have suppression : Suppression.IsWritten { kind := "directive" } _ := .object .null
  have message : suppressedMessage.IsWritten _ :=
    .object (.present rfl) (.present rfl) .null .missing .missing .missing
      (.present (.array (.cons suppression .nil)))
  have isWritten : suppressedReport.IsWritten suppressedDocument :=
    .object (.array (.cons (.object (.array .nil) (.array (.cons message .nil))) .nil))
      (.cons .unknown .nil)
  have messageRegular : suppressedMessage.IsRegular := {
    ruleId := by decide
    severity := by decide +kernel
    line := by
      intro line isLine
      cases isLine
      decide +kernel
    column := by simp [suppressedMessage]
    endLine := by simp [suppressedMessage]
    endColumn := by simp [suppressedMessage] }
  have messageJoined : suppressedMessage.IsJoined := {
    text := Text.isJoined_ofString _
    ruleId := by
      intro ruleId isRuleId
      cases isRuleId
      exact Text.isJoined_ofString _
    source := by simp [suppressedMessage]
    suppressions := by
      intro suppressions areThese
      cases areThese
      exact List.forall_mem_singleton.2 ⟨Text.isJoined_ofString _, by simp⟩ }
  have regular : suppressedReport.IsRegular := {
    results := List.forall_mem_singleton.2
      ⟨by decide, by simp, List.forall_mem_singleton.2 messageRegular⟩
    rules := by decide
    joined := {
      results := List.forall_mem_singleton.2
        ⟨Text.isJoined_ofString _, by simp, List.forall_mem_singleton.2 messageJoined⟩
      ruleIds := List.forall_mem_singleton.2 (Text.isJoined_ofString _)
      rules := List.forall_mem_singleton.2 (by simp) } }
  exact ⟨regular, isWritten, (read_written regular).2 suppressedDocument isWritten .line⟩

end Findings.Lint
