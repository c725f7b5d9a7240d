import Findings.Proofs.Except
import Findings.Proofs.Lint.Shape
import Mathlib.Logic.Relation

/-!
Contract: what a reader of reports does not look at.

Owns:
- the parts of a report, the members of each part that are recognised, and what is expected of each
  member;
- `Tolerated`, one change that takes nothing away and adds nothing that is expected: an item that
  does not count comes into an array, a member that is not recognised or not what is expected comes
  into an object, or the members of an object come in another order, at any place of a report;
- `readReport_of_tolerated`: two texts whose values differ in such changes, made or taken back, are
  read alike.

Everything that is read of a part is a function of the views of its recognised members
(`Part.read?_congr`), and no change touches a view (`Tolerated.view`).
-/

set_option autoImplicit false

namespace Findings.Lint

/-! ## The shape of a report -/

/-- The objects that a report consists of. -/
inductive Part where
  | report
  | metadata
  | fileResult
  | message
  | suppression
  | ruleMeta
  | docs
deriving DecidableEq, Repr

/-- What is expected of a member. -/
inductive Expected where
  /-- Any value, which is spelled out. -/
  | anything
  | text
  | nonemptyText
  | integer
  /-- The truth value true. -/
  | truth
  | object (part : Part)
  /-- An array with objects of a part. -/
  | array (part : Part)
  /-- An object with objects of a part under names of their own. -/
  | table (part : Part)
deriving DecidableEq, Repr

/-- The members of a part that are recognised, with what is expected of each. -/
def Part.members : Part → Entries Expected
  | .report => [("results", .array .fileResult), ("metadata", .object .metadata)]
  | .metadata => [("rulesMeta", .table .ruleMeta)]
  | .fileResult =>
      [("filePath", .nonemptyText), ("messages", .array .message),
        ("suppressedMessages", .array .message)]
  | .message =>
      [("message", .anything), ("severity", .integer), ("fatal", .truth),
        ("ruleId", .nonemptyText), ("line", .integer), ("column", .integer),
        ("endLine", .integer), ("endColumn", .integer), ("source", .text),
        ("suppressions", .array .suppression)]
  | .suppression => [("kind", .anything), ("justification", .text)]
  | .ruleMeta => [("docs", .object .docs), ("type", .text)]
  | .docs => [("description", .text), ("url", .text), ("category", .text)]

/-- What is expected of the member under a name; nothing when the name is not recognised. -/
def Part.expected? (part : Part) (name : Text) : Option Expected := Entries.find? name part.members

/-- A value is what is expected.  Truth values and numbers with a fraction are no integers. -/
def Expected.Fits : Expected → Json → Prop
  | .anything, _ => True
  | .text, value => ∃ text, value = .text text
  | .nonemptyText, value => ∃ text, value = .text text ∧ text ≠ []
  | .integer, value => ∃ number, value = .int number
  | .truth, value => value = .bool true
  | .object _, value | .table _, value => ∃ members, value = .object members
  | .array _, value => ∃ items, value = .array items

/-- An item of an array counts as a part.  Every object does, but a file result needs a path. -/
def Part.Counts (part : Part) (item : Json) : Prop :=
  ∃ members, item = .object members ∧
    (part = .fileResult → ∃ path, Entries.find? "filePath" members = some (.text path) ∧ path ≠ [])

/-! ## Changes -/

/-- One change in a value of which something is expected. -/
inductive Tolerated : Expected → Json → Json → Prop where
  /-- An item that does not count comes into an array. -/
  | item {part : Part} {before after : List Json} {item : Json} (uncounted : ¬ part.Counts item) :
      Tolerated (.array part) (.array (before ++ after)) (.array (before ++ item :: after))
  /-- A member that is not recognised comes into an object. -/
  | unknownMember {part : Part} {before after : Entries Json} {name : Text} {value : Json}
      (unknown : part.expected? name = none) :
      Tolerated (.object part) (.object (before ++ after))
        (.object (before ++ (name, value) :: after))
  /-- A member that is not what is expected comes into an object where there was none. -/
  | unfitMember {part : Part} {before after : Entries Json} {name : Text} {expected : Expected}
      {value : Json} (known : part.expected? name = some expected) (unfit : ¬ expected.Fits value)
      (absent : name ∉ Entries.keys (before ++ after)) :
      Tolerated (.object part) (.object (before ++ after))
        (.object (before ++ (name, value) :: after))
  /-- The members of an object, each there once, come in another order. -/
  | order {part : Part} {members others : Entries Json} (once : members.keys.Nodup)
      (perm : members.Perm others) : Tolerated (.object part) (.object members) (.object others)
  | insideItem {part : Part} {before after : List Json} {item other : Json}
      (change : Tolerated (.object part) item other) :
      Tolerated (.array part) (.array (before ++ item :: after)) (.array (before ++ other :: after))
  | insideMember {part : Part} {before after : Entries Json} {name : Text} {expected : Expected}
      {value other : Json} (known : part.expected? name = some expected)
      (change : Tolerated expected value other) :
      Tolerated (.object part) (.object (before ++ (name, value) :: after))
        (.object (before ++ (name, other) :: after))
  | insideEntry {part : Part} {before after : Entries Json} {name : Text} {value other : Json}
      (change : Tolerated (.object part) value other) :
      Tolerated (.table part) (.object (before ++ (name, value) :: after))
        (.object (before ++ (name, other) :: after))

/-- One change in a whole report, which is an array of file results or an object. -/
def ToleratedInReport (value other : Json) : Prop :=
  Tolerated (.array .fileResult) value other ∨ Tolerated (.object .report) value other

/-- Two values differ in any number of changes, each made or taken back. -/
def DifferTolerably : Json → Json → Prop := Relation.EqvGen ToleratedInReport

/-! ## Views -/

/-- What is read of a part. -/
def Part.View : Part → Type
  | .report => Report
  | .metadata => Option RuleTable
  | .fileResult => FileResult
  | .message => Message
  | .suppression => Suppression
  | .ruleMeta => RuleMeta
  | .docs => RuleDocs

/-- The metadata of a rule in the members of an object. -/
def readRuleMeta (members : Entries Json) : RuleMeta where
  docs := (objectMember members "docs").map readDocs
  kind := textMember members "type"

/-- The metadata of all rules in the members of an object. -/
def readRuleTable (members : Entries Json) : Option RuleTable :=
  (objectMember members "rulesMeta").map (Entries.mapValues readRuleMeta?)

/-- The report in the members of an object; none without an array of results. -/
def readMembers? (members : Entries Json) : Option Report :=
  (arrayMember members "results").map fun items =>
    { results := readResults items, rules := readRules members }

/-- Read a part from the members of an object. -/
def Part.read? : (part : Part) → Entries Json → Option part.View
  | .report, members => readMembers? members
  | .metadata, members => some (readRuleTable members)
  | .fileResult, members => readFileResult? members
  | .message, members => some (readMessage members)
  | .suppression, members => some (readSuppression members)
  | .ruleMeta, members => some (readRuleMeta members)
  | .docs, members => some (readDocs members)

/-- Read a part from a value. -/
def Part.ofJson? (part : Part) (value : Json) : Option part.View := value.object?.bind part.read?

/-- What is looked at of a member of which something is expected. -/
def Expected.View : Expected → Type
  | .anything => Option Json
  | .text | .nonemptyText => Option Text
  | .integer => Option Int
  | .truth => Bool
  | .object part => Option part.View
  | .array part => Option (List part.View)
  | .table part => Option (Entries (Option part.View))

/-- Look at a member, which can be missing. -/
def Expected.view : (expected : Expected) → Option Json → expected.View
  | .anything, value => value
  | .text, value => value.bind Json.text?
  | .nonemptyText, value => (value.bind Json.text?).filter fun text => !text.isEmpty
  | .integer, value => value.bind Json.int?
  | .truth, value =>
      match value with
      | some (.bool given) => given
      | _ => false
  | .object part, value => value.bind part.ofJson?
  | .array part, value => (value.bind Json.array?).map (List.filterMap part.ofJson?)
  | .table part, value => (value.bind Json.object?).map (Entries.mapValues part.ofJson?)

/-- What is not expected looks as if it were missing. -/
theorem Expected.view_of_not_fits {expected : Expected} {value : Json}
    (unfit : ¬ expected.Fits value) : expected.view (some value) = expected.view none := by
  cases expected with
  | anything => exact absurd trivial unfit
  | text =>
      cases value with
      | text text => exact absurd ⟨text, rfl⟩ unfit
      | _ => rfl
  | nonemptyText =>
      cases value with
      | text text =>
          cases text with
          | nil => rfl
          | cons c rest => exact absurd ⟨_, rfl, List.cons_ne_nil c rest⟩ unfit
      | _ => rfl
  | integer =>
      cases value with
      | int number => exact absurd ⟨number, rfl⟩ unfit
      | _ => rfl
  | truth =>
      cases value with
      | bool truth =>
          cases truth with
          | false => rfl
          | true => exact absurd rfl unfit
      | _ => rfl
  | object part =>
      cases value with
      | object members => exact absurd ⟨members, rfl⟩ unfit
      | _ => rfl
  | array part =>
      cases value with
      | array items => exact absurd ⟨items, rfl⟩ unfit
      | _ => rfl
  | table part =>
      cases value with
      | object members => exact absurd ⟨members, rfl⟩ unfit
      | _ => rfl

/-- Nothing is read of an item that does not count. -/
theorem Part.ofJson?_of_not_counts {part : Part} {item : Json} (uncounted : ¬ part.Counts item) :
    part.ofJson? item = none := by
  cases item with
  | object members =>
      cases part with
      | fileResult =>
          show readFileResult? members = none
          unfold readFileResult?
          rw [Option.map_eq_none_iff, Option.eq_none_iff_forall_ne_some]
          intro path isPath
          obtain ⟨found, nonempty⟩ := properTextMember_eq_some_iff.1 isPath
          exact uncounted ⟨members, rfl, fun _ => ⟨path, found, nonempty⟩⟩
      | _ => exact absurd ⟨members, rfl, fun isFile => by cases isFile⟩ uncounted
  | _ => rfl

/-! ## A part is read from its recognised members -/

section Reading

variable {members others : Entries Json}

/-- The recognised members of a part look the same in two objects. -/
def SameViews (part : Part) (members others : Entries Json) : Prop :=
  ∀ name expected, part.expected? name = some expected →
    expected.view (Entries.find? name members) = expected.view (Entries.find? name others)

/-- Where every object is read, an array is read object by object. -/
theorem filterMap_ofJson? {part : Part} {read : Entries Json → part.View}
    (always : ∀ members, part.read? members = some (read members)) (items : List Json) :
    items.filterMap part.ofJson? = (items.filterMap Json.object?).map read := by
  rw [List.map_filterMap]
  refine List.filterMap_congr fun item _ => ?_
  unfold Part.ofJson?
  cases item.object? with
  | none => rfl
  | some members => exact always members

theorem readMessages_congr {name : Text} (known : Part.fileResult.expected? name =
      some (.array .message)) (same : SameViews .fileResult members others) :
    readMessages members name = readMessages others name := by
  have eq_view : ∀ members : Entries Json, readMessages members name =
      (((Entries.find? name members).bind Json.array?).map
        (List.filterMap Part.message.ofJson?)).getD [] := by
    intro members
    unfold readMessages arrayMember
    cases (Entries.find? name members).bind Json.array? with
    | none => rfl
    | some items =>
        exact (@filterMap_ofJson? .message readMessage (fun _ => rfl) items).symm
  rw [eq_view, eq_view]
  exact congrArg (fun messages => messages.getD []) (same name _ known)

theorem readFileResult?_congr (same : SameViews .fileResult members others) :
    readFileResult? members = readFileResult? others := by
  have path : properTextMember members "filePath" = properTextMember others "filePath" :=
    same "filePath" .nonemptyText rfl
  unfold readFileResult?
  rw [path, readMessages_congr rfl same, readMessages_congr rfl same]

theorem readSuppression_congr (same : SameViews .suppression members others) :
    readSuppression members = readSuppression others := by
  have kind : Entries.find? "kind" members = Entries.find? "kind" others :=
    same "kind" .anything rfl
  have justification : textMember members "justification" = textMember others "justification" :=
    same "justification" .text rfl
  unfold readSuppression spelledMember
  rw [kind, justification]

/-- The suppressions in the members of a message. -/
def readSuppressions (members : Entries Json) : Option (List Suppression) :=
  (arrayMember members "suppressions").map fun items =>
    (items.filterMap Json.object?).map readSuppression

theorem readSuppressions_eq (members : Entries Json) :
    readSuppressions members =
      ((Entries.find? "suppressions" members).bind Json.array?).map
        (List.filterMap Part.suppression.ofJson?) := by
  unfold readSuppressions arrayMember
  cases (Entries.find? "suppressions" members).bind Json.array? with
  | none => rfl
  | some items =>
      exact congrArg some (@filterMap_ofJson? .suppression readSuppression (fun _ => rfl) items).symm

theorem readMessage_congr (same : SameViews .message members others) :
    readMessage members = readMessage others := by
  have text : Entries.find? "message" members = Entries.find? "message" others :=
    same "message" .anything rfl
  have severity : intMember members "severity" = intMember others "severity" :=
    same "severity" .integer rfl
  have fatal : isTrueMember members "fatal" = isTrueMember others "fatal" :=
    same "fatal" .truth rfl
  have ruleId : properTextMember members "ruleId" = properTextMember others "ruleId" :=
    same "ruleId" .nonemptyText rfl
  have line : intMember members "line" = intMember others "line" := same "line" .integer rfl
  have column : intMember members "column" = intMember others "column" :=
    same "column" .integer rfl
  have endLine : intMember members "endLine" = intMember others "endLine" :=
    same "endLine" .integer rfl
  have endColumn : intMember members "endColumn" = intMember others "endColumn" :=
    same "endColumn" .integer rfl
  have source : textMember members "source" = textMember others "source" :=
    same "source" .text rfl
  have suppressions : readSuppressions members = readSuppressions others := by
    rw [readSuppressions_eq, readSuppressions_eq]
    exact same "suppressions" (.array .suppression) rfl
  have eq_parts : ∀ members, readMessage members = {
      text := spelledMember members "message"
      severity := (intMember members "severity").getD warningSeverity
      fatal := isTrueMember members "fatal"
      ruleId := properTextMember members "ruleId"
      line := intMember members "line"
      column := intMember members "column"
      endLine := intMember members "endLine"
      endColumn := intMember members "endColumn"
      source := textMember members "source"
      suppressions := readSuppressions members } := fun _ => rfl
  rw [eq_parts, eq_parts]
  unfold spelledMember
  rw [text, severity, fatal, ruleId, line, column, endLine, endColumn, source, suppressions]

theorem readDocs_congr (same : SameViews .docs members others) :
    readDocs members = readDocs others := by
  have description : textMember members "description" = textMember others "description" :=
    same "description" .text rfl
  have url : textMember members "url" = textMember others "url" := same "url" .text rfl
  have category : textMember members "category" = textMember others "category" :=
    same "category" .text rfl
  unfold readDocs
  rw [description, url, category]

theorem objectMember_bind {α : Type} (read : Entries Json → α) (members : Entries Json)
    (name : Text) :
    (Entries.find? name members).bind (fun value => value.object?.bind fun inner =>
        some (read inner)) = (objectMember members name).map read := by
  unfold objectMember
  cases Entries.find? name members with
  | none => rfl
  | some value => cases value <;> rfl

theorem readRuleMeta_congr (same : SameViews .ruleMeta members others) :
    readRuleMeta members = readRuleMeta others := by
  have docs : (objectMember members "docs").map readDocs =
      (objectMember others "docs").map readDocs := by
    rw [← objectMember_bind, ← objectMember_bind]
    exact same "docs" (.object .docs) rfl
  have kind : textMember members "type" = textMember others "type" := same "type" .text rfl
  unfold readRuleMeta
  rw [docs, kind]

theorem readRuleTable_congr (same : SameViews .metadata members others) :
    readRuleTable members = readRuleTable others := by
  have isRead : Part.ruleMeta.ofJson? = readRuleMeta? := by
    funext value
    cases value <;> rfl
  have table : (objectMember members "rulesMeta").map (Entries.mapValues Part.ruleMeta.ofJson?) =
      (objectMember others "rulesMeta").map (Entries.mapValues Part.ruleMeta.ofJson?) :=
    same "rulesMeta" (.table .ruleMeta) rfl
  rw [isRead] at table
  exact table

theorem readRules_congr (same : SameViews .report members others) :
    readRules members = readRules others := by
  have eq_view : ∀ members, readRules members =
      (((objectMember members "metadata").map readRuleTable).join).getD [] := by
    intro members
    unfold readRules readRuleTable
    cases objectMember members "metadata" with
    | none => rfl
    | some metadata =>
        simp only [Option.bind_some, Option.map_some, Option.join_some]
        cases objectMember metadata "rulesMeta" <;> rfl
  have tables : (objectMember members "metadata").map readRuleTable =
      (objectMember others "metadata").map readRuleTable := by
    rw [← objectMember_bind, ← objectMember_bind]
    exact same "metadata" (.object .metadata) rfl
  rw [eq_view, eq_view, tables]

/-- The file results in an array are read as a part. -/
theorem readResults_eq (items : List Json) :
    readResults items = items.filterMap Part.fileResult.ofJson? := by
  unfold readResults
  rw [List.filterMap_filterMap]
  rfl

theorem readMembers?_congr (same : SameViews .report members others) :
    readMembers? members = readMembers? others := by
  have eq_map : ∀ members, readMembers? members =
      ((arrayMember members "results").map readResults).map fun results =>
        { results := results, rules := readRules members } := by
    intro members
    rw [Option.map_map]
    rfl
  have results : (arrayMember members "results").map readResults =
      (arrayMember others "results").map readResults := by
    rw [funext readResults_eq]
    exact same "results" (.array .fileResult) rfl
  rw [eq_map, eq_map, results, readRules_congr same]

/-- **Parts.**  What is read of a part depends on the views of its recognised members only. -/
theorem Part.read?_congr {part : Part} (same : SameViews part members others) :
    part.read? members = part.read? others := by
  cases part with
  | report => exact readMembers?_congr same
  | metadata => exact congrArg some (readRuleTable_congr same)
  | fileResult => exact readFileResult?_congr same
  | message => exact congrArg some (readMessage_congr same)
  | suppression => exact congrArg some (readSuppression_congr same)
  | ruleMeta => exact congrArg some (readRuleMeta_congr same)
  | docs => exact congrArg some (readDocs_congr same)

end Reading

/-! ## Changes and views -/

section Changes

/-- A member that comes into an object shows under its own name at most. -/
theorem find?_of_inserted {before after : Entries Json} {name other : Text} (value : Json)
    (different : other ≠ name) :
    Entries.find? other (before ++ (name, value) :: after) =
      Entries.find? other (before ++ after) := by
  rw [Entries.find?_append, Entries.find?_append, Entries.find?, if_neg (Ne.symm different)]

theorem sameViews_of_replaced {part : Part} {before after : Entries Json} {name : Text}
    {expected : Expected} {value other : Json} (known : part.expected? name = some expected)
    (same : expected.view (some value) = expected.view (some other)) :
    SameViews part (before ++ (name, value) :: after) (before ++ (name, other) :: after) := by
  intro label wanted isWanted
  rw [Entries.find?_append, Entries.find?_append]
  cases Entries.find? label before with
  | some found => rfl
  | none =>
      rw [Option.none_or, Option.none_or, Entries.find?, Entries.find?]
      split
      · rename_i isName
        rw [← isName, known] at isWanted
        cases isWanted
        exact same
      · rfl

theorem sameViews_of_unfit {part : Part} {before after : Entries Json} {name : Text}
    {expected : Expected} {value : Json} (known : part.expected? name = some expected)
    (unfit : ¬ expected.Fits value) (absent : name ∉ Entries.keys (before ++ after)) :
    SameViews part (before ++ after) (before ++ (name, value) :: after) := by
  intro label wanted isWanted
  by_cases isName : label = name
  · subst isName
    rw [known] at isWanted
    cases isWanted
    have missing := Entries.find?_of_not_mem absent
    rw [Entries.find?_append, Option.or_eq_none_iff] at missing
    rw [Entries.find?_append, Entries.find?_append, missing.1, missing.2, Entries.find?,
      if_pos rfl]
    exact (Expected.view_of_not_fits unfit).symm
  · rw [find?_of_inserted value isName]

theorem sameViews_of_unknown {part : Part} {before after : Entries Json} {name : Text}
    {value : Json} (unknown : part.expected? name = none) :
    SameViews part (before ++ after) (before ++ (name, value) :: after) := by
  intro label wanted isWanted
  have different : label ≠ name := by
    rintro rfl
    rw [unknown] at isWanted
    cases isWanted
  rw [find?_of_inserted value different]

/-- **One change.**  What is looked at of a value is the same before and after a change. -/
theorem Tolerated.view {expected : Expected} {value other : Json}
    (change : Tolerated expected value other) :
    expected.view (some value) = expected.view (some other) := by
  induction change with
  | @item part before after item uncounted =>
      show some ((before ++ after).filterMap part.ofJson?) =
        some ((before ++ item :: after).filterMap part.ofJson?)
      rw [List.filterMap_append, List.filterMap_append, List.filterMap_cons_none
        (Part.ofJson?_of_not_counts uncounted)]
  | unknownMember unknown => exact Part.read?_congr (sameViews_of_unknown unknown)
  | unfitMember known unfit absent => exact Part.read?_congr (sameViews_of_unfit known unfit absent)
  | order once perm =>
      refine Part.read?_congr fun name wanted _ => ?_
      rw [Entries.find?_of_perm once perm]
  | @insideItem part before after item other _ inductionHypothesis =>
      have sameItem : part.ofJson? item = part.ofJson? other := inductionHypothesis
      show some ((before ++ item :: after).filterMap part.ofJson?) =
        some ((before ++ other :: after).filterMap part.ofJson?)
      rw [List.filterMap_append, List.filterMap_append, List.filterMap_cons, List.filterMap_cons,
        sameItem]
  | insideMember known _ inductionHypothesis =>
      exact Part.read?_congr (sameViews_of_replaced known inductionHypothesis)
  | @insideEntry part before after name value other _ inductionHypothesis =>
      have sameEntry : part.ofJson? value = part.ofJson? other := inductionHypothesis
      show some (Entries.mapValues part.ofJson? (before ++ (name, value) :: after)) =
        some (Entries.mapValues part.ofJson? (before ++ (name, other) :: after))
      unfold Entries.mapValues
      rw [List.map_append, List.map_append, List.map_cons, List.map_cons, sameEntry]

end Changes

/-! ## Reports -/

theorem exists_arrays_of_tolerated {part : Part} {value other : Json}
    (change : Tolerated (.array part) value other) :
    ∃ items others, value = .array items ∧ other = .array others := by
  cases change <;> exact ⟨_, _, rfl, rfl⟩

theorem exists_objects_of_tolerated {part : Part} {value other : Json}
    (change : Tolerated (.object part) value other) :
    ∃ members others, value = .object members ∧ other = .object others := by
  cases change <;> exact ⟨_, _, rfl, rfl⟩

theorem reportOfJson_object (members : Entries Json) :
    reportOfJson (.object members) =
      match readMembers? members with
      | some report => .ok report
      | none => .error .resultsNotList := by
  unfold readMembers?
  rw [reportOfJson]
  cases arrayMember members "results" <;> rfl

theorem reportOfJson_of_tolerated {value other : Json} (change : ToleratedInReport value other) :
    reportOfJson value = reportOfJson other := by
  rcases change with change | change
  · have sameView := change.view
    obtain ⟨items, others, rfl, rfl⟩ := exists_arrays_of_tolerated change
    have sameResults : readResults items = readResults others := by
      rw [readResults_eq, readResults_eq]
      exact Option.some.inj sameView
    rw [reportOfJson, reportOfJson, sameResults]
  · have sameView := change.view
    obtain ⟨members, others, rfl, rfl⟩ := exists_objects_of_tolerated change
    have sameReport : readMembers? members = readMembers? others := sameView
    rw [reportOfJson_object, reportOfJson_object, sameReport]

theorem reportOfJson_of_differTolerably {value other : Json}
    (differ : DifferTolerably value other) : reportOfJson value = reportOfJson other := by
  induction differ with
  | rel value other change => exact reportOfJson_of_tolerated change
  | refl value => rfl
  | symm value other _ inductionHypothesis => exact inductionHypothesis.symm
  | trans value middle other _ _ first second => exact first.trans second

/-- **What is tolerated in a report.**  Texts whose values differ in any number of such changes are
read as the same report, or are no reports for the same reason. -/
theorem readReport_of_tolerated {text other : Text} {value changed : Json}
    (denotes : Json.read text = .ok value) (denotesChanged : Json.read other = .ok changed)
    (differ : DifferTolerably value changed) : readReport other = readReport text := by
  unfold readReport
  rw [denotes, denotesChanged]
  dsimp only
  rw [reportOfJson_of_differTolerably differ]

/-- The members of a message with the text `m` and no severity. -/
def plainMembers : Entries Json := [("message", .text "m")]

/-- The members of a file result with one message. -/
def plainFileMembers (message : Entries Json) : Entries Json :=
  [("filePath", .text "a.js"), ("messages", .array [.object message])]

/-- A severity that is no number is taken away, the members come in another order, and an item that
is no file result comes in front. -/
theorem readReport_of_tolerated_sample :
    readReport
        "[null, \x7b\"messages\": [\x7b\"message\": \"m\"\x7d], \"filePath\": \"a.js\"\x7d]" =
      readReport ("[\x7b\"filePath\": \"a.js\", \"messages\": " ++
        "[\x7b\"severity\": true, \"message\": \"m\"\x7d]\x7d]") := by
  have severity : Tolerated (.object .message) (.object plainMembers)
      (.object (("severity", .bool true) :: plainMembers)) :=
    @Tolerated.unfitMember .message [] plainMembers "severity" .integer (.bool true) (by decide)
      (by rintro ⟨number, isInteger⟩; cases isInteger) (by decide)
  have inMessages : Tolerated (.array .message) (.array [.object plainMembers])
      (.array [.object (("severity", .bool true) :: plainMembers)]) :=
    @Tolerated.insideItem .message [] [] _ _ severity
  have inFile : Tolerated (.object .fileResult) (.object (plainFileMembers plainMembers))
      (.object (plainFileMembers (("severity", .bool true) :: plainMembers))) :=
    @Tolerated.insideMember .fileResult [("filePath", .text "a.js")] [] "messages" _ _ _
      (by decide) inMessages
  have inResults : ToleratedInReport (.array [.object (plainFileMembers plainMembers)])
      (.array [.object (plainFileMembers (("severity", .bool true) :: plainMembers))]) :=
    .inl (@Tolerated.insideItem .fileResult [] [] _ _ inFile)
  have swapped : ToleratedInReport (.array [.object (plainFileMembers plainMembers)])
      (.array [.object (plainFileMembers plainMembers).reverse]) :=
    .inl (@Tolerated.insideItem .fileResult [] [] _ _
      (.order (by decide) (List.reverse_perm _).symm))
  have inserted : ToleratedInReport (.array [.object (plainFileMembers plainMembers).reverse])
      (.array [.null, .object (plainFileMembers plainMembers).reverse]) :=
    .inl (@Tolerated.item .fileResult [] [.object (plainFileMembers plainMembers).reverse] .null
      (by rintro ⟨members, isObject, -⟩; cases isObject))
  exact readReport_of_tolerated (by with_unfolding_all rfl) (by with_unfolding_all rfl)
    (.trans _ _ _ (.symm _ _ (.rel _ _ inResults)) (.trans _ _ _ (.rel _ _ swapped)
      (.rel _ _ inserted)))

end Findings.Lint
