import Findings.Lint.Reader
import Findings.Proofs.Entries
import Mathlib.Data.List.Forall2

/-!
Contract: what a report says, member by member.

Owns:
- what a member has to be so that it is read as a text, an integer, an array and so on;
- `Suppression.Describes`, `Message.Describes` and `FileResult.Describes`, what each part of a
  report takes from the members of its object, and that what is read takes it;
- the objects of an array that are file results or messages, in order.

Does not own: which changes of a report make no difference (`Findings.Proofs.Lint.Tolerance`).
-/

set_option autoImplicit false

namespace Findings.Lint

/-! ## Members -/

section Members

variable {members : Entries Json} {name : Text}

theorem textMember_eq_some_iff {text : Text} :
    textMember members name = some text ↔ Entries.find? name members = some (.text text) := by
  unfold textMember
  cases Entries.find? name members with
  | none => simp
  | some value => cases value <;> simp [Json.text?]

theorem intMember_eq_some_iff {number : Int} :
    intMember members name = some number ↔ Entries.find? name members = some (.int number) := by
  unfold intMember
  cases Entries.find? name members with
  | none => simp
  | some value => cases value <;> simp [Json.int?]

theorem arrayMember_eq_some_iff {items : List Json} :
    arrayMember members name = some items ↔ Entries.find? name members = some (.array items) := by
  unfold arrayMember
  cases Entries.find? name members with
  | none => simp
  | some value => cases value <;> simp [Json.array?]

theorem isTrueMember_eq_true_iff :
    isTrueMember members name = true ↔ Entries.find? name members = some (.bool true) := by
  unfold isTrueMember
  cases Entries.find? name members with
  | none => simp
  | some value => cases value <;> simp

theorem properTextMember_eq_some_iff {text : Text} :
    properTextMember members name = some text ↔
      Entries.find? name members = some (.text text) ∧ text ≠ [] := by
  unfold properTextMember
  rw [Option.filter_eq_some_iff, textMember_eq_some_iff]
  simp

end Members

/-! ## Parts of a report -/

/-- The objects in an array under a name; none without an array. -/
def objectsUnder (members : Entries Json) (name : Text) : List (Entries Json) :=
  match Entries.find? name members with
  | some (.array items) => items.filterMap Json.object?
  | _ => []

/-- The members of an object with a path, which a file result has to be. -/
def withPath? : Json → Option (Entries Json)
  | .object members =>
      match Entries.find? "filePath" members with
      | some (.text (_ :: _)) => some members
      | _ => none
  | _ => none

/-- What stands under a name is spelled out as a text, which is empty if nothing stands there. -/
def SpellsMember (members : Entries Json) (name text : Text) : Prop :=
  (Entries.find? name members = none ∧ text = []) ∨
    ∃ value, Entries.find? name members = some value ∧ text = value.spelling

structure Suppression.Describes (members : Entries Json) (suppression : Suppression) : Prop where
  kind : SpellsMember members "kind" suppression.kind
  justification : ∀ text, suppression.justification = some text ↔
    Entries.find? "justification" members = some (.text text)

structure Message.Describes (members : Entries Json) (message : Message) : Prop where
  text : SpellsMember members "message" message.text
  severity : ∀ number, Entries.find? "severity" members = some (.int number) →
    message.severity = number
  noSeverity : (∀ number, Entries.find? "severity" members ≠ some (.int number)) →
    message.severity = warningSeverity
  fatal : message.fatal = true ↔ Entries.find? "fatal" members = some (.bool true)
  ruleId : ∀ ruleId, message.ruleId = some ruleId ↔
    Entries.find? "ruleId" members = some (.text ruleId) ∧ ruleId ≠ []
  line : ∀ line, message.line = some line ↔ Entries.find? "line" members = some (.int line)
  column : ∀ column, message.column = some column ↔
    Entries.find? "column" members = some (.int column)
  endLine : ∀ line, message.endLine = some line ↔ Entries.find? "endLine" members = some (.int line)
  endColumn : ∀ column, message.endColumn = some column ↔
    Entries.find? "endColumn" members = some (.int column)
  source : ∀ source, message.source = some source ↔
    Entries.find? "source" members = some (.text source)
  suppressions : ∀ suppressions, message.suppressions = some suppressions →
    (∃ items, Entries.find? "suppressions" members = some (.array items)) ∧
      List.Forall₂ Suppression.Describes (objectsUnder members "suppressions") suppressions
  noSuppressions : message.suppressions = none →
    ∀ items, Entries.find? "suppressions" members ≠ some (.array items)

structure FileResult.Describes (members : Entries Json) (file : FileResult) : Prop where
  path : Entries.find? "filePath" members = some (.text file.path)
  messages : List.Forall₂ Message.Describes (objectsUnder members "messages") file.messages
  suppressedMessages : List.Forall₂ Message.Describes (objectsUnder members "suppressedMessages")
    file.suppressedMessages

/-! ## What is read describes its object -/

theorem spellsMember_spelledMember (members : Entries Json) (name : Text) :
    SpellsMember members name (spelledMember members name) := by
  unfold SpellsMember spelledMember
  cases Entries.find? name members with
  | none => exact .inl ⟨rfl, rfl⟩
  | some value => exact .inr ⟨value, rfl, rfl⟩

theorem forall₂_map {α : Type} {R : Entries Json → α → Prop} {read : Entries Json → α}
    (describes : ∀ members, R members (read members)) (objects : List (Entries Json)) :
    List.Forall₂ R objects (objects.map read) := by
  rw [List.forall₂_map_right_iff, List.forall₂_same]
  exact fun members _ => describes members

theorem readSuppression_describes (members : Entries Json) :
    (readSuppression members).Describes members where
  kind := spellsMember_spelledMember members "kind"
  justification := fun _ => textMember_eq_some_iff

theorem readMessage_describes (members : Entries Json) :
    (readMessage members).Describes members where
  text := spellsMember_spelledMember members "message"
  severity := by
    intro number isNumber
    show (intMember members "severity").getD warningSeverity = number
    rw [intMember_eq_some_iff.2 isNumber, Option.getD_some]
  noSeverity := by
    intro noNumber
    show (intMember members "severity").getD warningSeverity = warningSeverity
    cases isNumber : intMember members "severity" with
    | none => rfl
    | some number => exact absurd (intMember_eq_some_iff.1 isNumber) (noNumber number)
  fatal := isTrueMember_eq_true_iff
  ruleId := fun _ => properTextMember_eq_some_iff
  line := fun _ => intMember_eq_some_iff
  column := fun _ => intMember_eq_some_iff
  endLine := fun _ => intMember_eq_some_iff
  endColumn := fun _ => intMember_eq_some_iff
  source := fun _ => textMember_eq_some_iff
  suppressions := by
    intro suppressions areRead
    obtain ⟨items, isArray, rfl⟩ := Option.map_eq_some_iff.1 areRead
    have found := arrayMember_eq_some_iff.1 isArray
    refine ⟨⟨items, found⟩, ?_⟩
    rw [objectsUnder, found]
    exact forall₂_map readSuppression_describes _
  noSuppressions := by
    intro nothing items found
    have isArray := Option.map_eq_none_iff.1 nothing
    rw [arrayMember_eq_some_iff.2 found] at isArray
    cases isArray

theorem readMessages_eq (members : Entries Json) (name : Text) :
    readMessages members name = (objectsUnder members name).map readMessage := by
  unfold readMessages objectsUnder arrayMember
  cases Entries.find? name members with
  | none => rfl
  | some value => cases value <;> rfl

theorem readFileResult?_describes {members : Entries Json} {file : FileResult}
    (isRead : readFileResult? members = some file) : file.Describes members := by
  obtain ⟨path, isPath, rfl⟩ := Option.map_eq_some_iff.1 isRead
  refine ⟨(properTextMember_eq_some_iff.1 isPath).1, ?_, ?_⟩
  · show List.Forall₂ _ _ (readMessages members "messages")
    rw [readMessages_eq]
    exact forall₂_map readMessage_describes _
  · show List.Forall₂ _ _ (readMessages members "suppressedMessages")
    rw [readMessages_eq]
    exact forall₂_map readMessage_describes _

/-- A file result is read from every object with a path, and from nothing else. -/
theorem withPath?_object (members : Entries Json) :
    withPath? (.object members) = (readFileResult? members).map fun _ => members := by
  rw [withPath?, readFileResult?, properTextMember, textMember]
  cases Entries.find? "filePath" members with
  | none => rfl
  | some value =>
      cases value with
      | text path => cases path <;> rfl
      | _ => rfl

/-- **File results.**  There is one for each object with a path, in order. -/
theorem readResults_describes (items : List Json) :
    List.Forall₂ FileResult.Describes (items.filterMap withPath?) (readResults items) := by
  unfold readResults
  rw [List.filterMap_filterMap]
  induction items with
  | nil => exact .nil
  | cons item items inductionHypothesis =>
      rw [List.filterMap_cons, List.filterMap_cons]
      cases item with
      | object members =>
          have isBound :
              (Json.object members).object?.bind readFileResult? = readFileResult? members := rfl
          rw [withPath?_object, isBound]
          cases isRead : readFileResult? members with
          | none => exact inductionHypothesis
          | some file => exact .cons (readFileResult?_describes isRead) inductionHypothesis
      | _ => exact inductionHypothesis

/-- Every path and every rule id that is read is no empty text. -/
theorem readResults_proper (items : List Json) : ∀ file ∈ readResults items,
    file.path ≠ [] ∧ ∀ message ∈ file.messages ++ file.suppressedMessages,
      message.ruleId ≠ some [] := by
  intro file member
  obtain ⟨members, -, isRead⟩ := List.mem_filterMap.1 member
  obtain ⟨path, isPath, rfl⟩ := Option.map_eq_some_iff.1 isRead
  refine ⟨(properTextMember_eq_some_iff.1 isPath).2, fun message isMessage => ?_⟩
  obtain ⟨inner, rfl⟩ : ∃ inner, readMessage inner = message := by
    rcases List.mem_append.1 isMessage with inFile | inFile
    · obtain ⟨inner, -, isRead⟩ := List.mem_map.1 inFile
      exact ⟨inner, isRead⟩
    · obtain ⟨inner, -, isRead⟩ := List.mem_map.1 inFile
      exact ⟨inner, isRead⟩
  exact fun isEmpty => (((readMessage_describes inner).ruleId []).1 isEmpty).2 rfl

end Findings.Lint
