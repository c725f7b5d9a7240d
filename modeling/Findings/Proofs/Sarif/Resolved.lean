import Findings.Proofs.Sarif.Artifacts
import Findings.Proofs.Sarif.Rules

/-!
Contract: entries with what they point at.

Owns:
- changing a value in one place of a document (`changedAt`, `changedItems`);
- `resolved`, an entry of a document that holds the records of its file and its rule where it had
  their places in the tables;
- `Entry.Agrees`, two entries that are the same once they are resolved by their own tables;
- `exists_agreeing_entry`: under other tables that list the same files and rules, a message has an
  entry that agrees with the one it had.

Does not own: which runs have such tables (`Findings.Proofs.Sarif.FileOrder`).
-/

set_option autoImplicit false

namespace Findings.Sarif

open Findings.Lint Findings.FirstAppearance

/-! ## Changing a document in one place -/

/-- Members of which those under a name are changed. -/
def changedMembers (name : String) (change : Json → Json) (members : List (Text × Json)) :
    List (Text × Json) :=
  members.map fun entry =>
    if entry.1 = Text.ofString name then (entry.1, change entry.2) else entry

/-- An object in which the value under a name is changed. -/
def changedAt (name : String) (change : Json → Json) : Json → Json
  | .object members => .object (changedMembers name change members)
  | value => value

/-- An array in which every item is changed. -/
def changedItems (change : Json → Json) : Json → Json
  | .array items => .array (items.map change)
  | value => value

section Changes

variable (name : String) (change : Json → Json)

@[simp] theorem changedAt_object (members : List (Text × Json)) :
    changedAt name change (.object members) = .object (changedMembers name change members) := rfl

@[simp] theorem changedItems_array (items : List Json) :
    changedItems change (.array items) = .array (items.map change) := rfl

@[simp] theorem changedMembers_append (left right : List (Text × Json)) :
    changedMembers name change (left ++ right) =
      changedMembers name change left ++ changedMembers name change right :=
  List.map_append

@[simp] theorem changedMembers_member (label : String) (value : Json) :
    changedMembers name change (member label value) =
      member label (if label = name then change value else value) := by
  unfold changedMembers member
  rw [List.map_singleton]
  by_cases same : label = name
  · rw [if_pos same, if_pos (congrArg Text.ofString same)]
  · rw [if_neg same, if_neg fun equal => same (Text.ofString_inj.1 equal)]

@[simp] theorem changedMembers_member? {α : Type} (label : String) (value : Option α)
    (encode : α → Json) :
    changedMembers name change (member? label value encode) =
      member? label value fun shown => if label = name then change (encode shown)
        else encode shown := by
  cases value with
  | none => rfl
  | some shown => exact changedMembers_member name change label (encode shown)

end Changes

/-! ## Entries with what they point at -/

/-- The record at a place of a table.  A place that is not in the table stays as it is. -/
def recordAt (table : List Json) : Json → Json
  | .int (.ofNat index) => (table[index]?).getD (natValue index)
  | value => value

/-- An entry with the records of its file and its rule instead of their places in given tables. -/
def resolvedBy (artifacts rules : List Json) (entry : Json) : Json :=
  changedAt "ruleIndex" (recordAt rules)
    (changedAt "locations" (changedItems (changedAt "physicalLocation"
      (changedAt "artifactLocation" (changedAt "index" (recordAt artifacts))))) entry)

/-- An entry of a document with the records of its file and its rule. -/
def resolved (document entry : Json) : Json :=
  resolvedBy (artifactsIn document) (rulesIn document) entry

/-- A location that shows a value in the place of the index of its file. -/
def Location.shownWith (file : Json) (location : Location) : Json :=
  .object (member "physicalLocation" (.object (
    member "artifactLocation" (.object (
      member "uri" (.text location.uri) ++ member "index" file))
    ++ member? "region" location.region Region.toJson)))

/-- The members of a finding, with a value in the place of the index of its file. -/
def Finding.membersWith (file : Json) (finding : Finding) : List (Text × Json) :=
  member "level" (.text finding.level.toText)
    ++ member "message" (messageText finding.text)
    ++ member "locations" (.array [finding.location.shownWith file])
    ++ member? "partialFingerprints" finding.fingerprints Fingerprints.toJson

section Tables

variable (artifacts rules : List Json)

theorem resolvedBy_notification (finding : Finding) :
    resolvedBy artifacts rules finding.toJson =
      .object (finding.membersWith (recordAt artifacts (natValue finding.location.index))
        ++ member "descriptor" (.object (member "id" (.text internalErrorId)))) := by
  simp [resolvedBy, Finding.toJson, Finding.members, Finding.membersWith, Location.toJson,
    Location.shownWith]

theorem resolvedBy_result (result : Result) :
    resolvedBy artifacts rules result.toJson =
      .object (result.finding.membersWith
          (recordAt artifacts (natValue result.finding.location.index))
        ++ member "ruleId" (.text result.ruleId)
        ++ member? "ruleIndex" (result.ruleIndex.map fun index => recordAt rules (natValue index)) id
        ++ member? "suppressions" result.suppressions fun suppressions =>
          .array (suppressions.map Suppression.toJson)) := by
  have encoded : (member? "ruleIndex" (result.ruleIndex.map fun index => recordAt rules (natValue index))
      id) = member? "ruleIndex" result.ruleIndex fun index => recordAt rules (natValue index) := by
    cases result.ruleIndex <;> rfl
  rw [encoded]
  simp [resolvedBy, Result.toJson, Finding.members, Finding.membersWith, Location.toJson,
    Location.shownWith]

end Tables

/-! ## Entries under other tables -/

/-- A finding that points at another place among the artifacts. -/
def Finding.movedTo (index : Nat) (finding : Finding) : Finding :=
  { finding with location := { finding.location with index := index } }

/-- An entry that points at other places in the tables. -/
def Entry.movedTo (index : Nat) (ruleIndex : Option Nat) : Entry → Entry
  | .result reported =>
      .result { reported with finding := reported.finding.movedTo index, ruleIndex := ruleIndex }
  | .notification finding => .notification (finding.movedTo index)

/-- What a message becomes depends on the tables in its places only. -/
theorem entryAt_movedTo (options : Options) (uri : Text) (index other : Nat)
    (ruleIndex otherRule : Option Nat) (merged : Bool) (message : Message) :
    entryAt options uri other otherRule merged message =
      (entryAt options uri index ruleIndex merged message).map (Entry.movedTo other otherRule) := by
  unfold entryAt
  cases Draft.fingerprintsOf options message uri with
  | error fault => rfl
  | ok prints =>
      simp only [ok_bind]
      cases properRuleId message with
      | none => rfl
      | some ruleId =>
          simp only
          cases Draft.withRuleFingerprint ruleId prints with
          | error fault => rfl
          | ok allPrints => rfl

/-- An emission has the same entry under all tables, but for its places. -/
theorem entryOf_movedTo (options : Options) (tables others : Tables) (emission : Emission) :
    entryOf options others emission =
      (entryOf options tables emission).map (Entry.movedTo
        (others.uris.idxOf (emission.uri options))
        ((properRuleId emission.message).bind fun ruleId => others.ruleIds.idxOf? ruleId)) :=
  entryAt_movedTo ..

/-- Two entries of one kind and level that are the same once they are resolved by their own
tables. -/
inductive Entry.Agrees (left right : List Json × List Json) : Entry → Entry → Prop where
  | result {first second : Result}
      (same : resolvedBy left.1 left.2 first.toJson = resolvedBy right.1 right.2 second.toJson) :
      Agrees left right (.result first) (.result second)
  | notification {first second : Finding} (sameLevel : first.level = second.level)
      (same : resolvedBy left.1 left.2 first.toJson = resolvedBy right.1 right.2 second.toJson) :
      Agrees left right (.notification first) (.notification second)

/-- The records of the files and the rules of tables. -/
def Tables.records (rules : RuleTable) (tables : Tables) : List Json × List Json :=
  (tables.uris.map artifactRecord,
    tables.ruleIds.map fun ruleId => (describe rules ruleId).toJson)

/-- The place of a listed file holds its record. -/
theorem recordAt_idxOf {uris : List Text} {uri : Text} (listed : uri ∈ uris) :
    recordAt (uris.map artifactRecord) (natValue (uris.idxOf uri)) = artifactRecord uri := by
  show ((uris.map artifactRecord)[uris.idxOf uri]?).getD _ = artifactRecord uri
  rw [List.getElem?_map, getElem?_idxOf listed]
  rfl

/-- The place of a rule holds its record if the rule is listed, and there is no place otherwise. -/
theorem recordAt_idxOf? (rules : RuleTable) (ruleIds : List Text) (ruleId : Text) :
    ((ruleIds.idxOf? ruleId).map fun index =>
        recordAt (ruleIds.map fun other => (describe rules other).toJson) (natValue index)) =
      if ruleId ∈ ruleIds then some (describe rules ruleId).toJson else none := by
  by_cases listed : ruleId ∈ ruleIds
  · rw [idxOf?_of_mem listed, if_pos listed, Option.map_some]
    show some (((ruleIds.map _)[ruleIds.idxOf ruleId]?).getD _) = _
    rw [List.getElem?_map, getElem?_idxOf listed]
    rfl
  · rw [List.idxOf?_eq_none_iff.2 listed, if_neg listed]
    rfl

/-- **Under tables that list the same, a message has the same resolved entry.** -/
theorem exists_agreeing_entry {options : Options} (rules : RuleTable) {tables others : Tables}
    (sameUris : ∀ uri, uri ∈ tables.uris ↔ uri ∈ others.uris)
    (sameRules : ∀ ruleId, ruleId ∈ tables.ruleIds ↔ ruleId ∈ others.ruleIds)
    {emission : Emission} (listed : emission.uri options ∈ tables.uris) {entry : Entry}
    (made : entryOf options tables emission = .ok entry) :
    ∃ other, entryOf options others emission = .ok other ∧
      entry.Agrees (tables.records rules) (others.records rules) other := by
  have otherListed := (sameUris _).1 listed
  have sameFile : recordAt (tables.records rules).1
        (natValue (tables.uris.idxOf (emission.uri options))) =
      recordAt (others.records rules).1
        (natValue (others.uris.idxOf (emission.uri options))) :=
    (recordAt_idxOf listed).trans (recordAt_idxOf otherListed).symm
  have sameRule : ∀ ruleId,
      ((tables.ruleIds.idxOf? ruleId).map fun index =>
        recordAt (tables.records rules).2 (natValue index)) =
      (others.ruleIds.idxOf? ruleId).map fun index =>
        recordAt (others.records rules).2 (natValue index) := by
    intro ruleId
    have sameListing := recordAt_idxOf? rules others.ruleIds ruleId
    rw [← if_congr (sameRules ruleId) rfl rfl] at sameListing
    exact (recordAt_idxOf? rules tables.ruleIds ruleId).trans sameListing.symm
  have moved := entryOf_movedTo options tables others emission
  rw [made, ok_map] at moved
  refine ⟨_, moved, ?agrees⟩
  case agrees =>
    rcases entryAt_cases made with ⟨_, prints, _, isEntry⟩ | ⟨ruleId, prints, named, _, isEntry⟩
    · rw [isEntry]
      refine .notification rfl ?_
      rw [resolvedBy_notification, resolvedBy_notification]
      unfold Finding.movedTo findingOf
      rw [sameFile]
      rfl
    · rw [isEntry]
      refine .result ?_
      rw [resolvedBy_result, resolvedBy_result]
      unfold Finding.movedTo findingOf
      simp only [named, Option.bind_some]
      rw [sameFile, sameRule ruleId]
      rfl

end Findings.Sarif
