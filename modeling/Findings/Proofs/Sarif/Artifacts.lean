import Findings.Proofs.Sarif.Document
import Findings.Proofs.Sarif.Run

/-!
Contract: the artifacts of a document and the entries that point at them.

Owns:
- `ListsArtifacts`, what a table of files has to say and what entries have to say of it, in terms of
  the document alone;
- `artifacts_of_files`: the table of a run holds the locations of the files with messages, once
  each, in the order in which the files first come.
-/

set_option autoImplicit false

namespace Findings.Sarif

open Findings.Lint Findings.FirstAppearance

/-! ## What a table has to say -/

/-- A record of a file in a document. -/
def artifactRecord (uri : Text) : Json :=
  .object [("location", .object [("uri", .text uri)])]

/-- A document lists the files at given locations: each of them once, every entry points at the
record of its own file, and no record is without an entry.  The table is left out just when there
are no entries. -/
structure ListsArtifacts (uris : List Text) (document : Json) : Prop where
  records : artifactsIn document = uris.map artifactRecord
  nodup : uris.Nodup
  located : ∀ entry ∈ entriesIn document, ∃ (index : Nat) (uri : Text),
    shownIndex? entry = some (.int index) ∧ shownUri? entry = some (.text uri) ∧
      uris[index]? = some uri
  referenced : ∀ index : Nat, index < uris.length →
    ∃ entry ∈ entriesIn document, shownIndex? entry = some (.int index)
  absent_iff : (runOf document).member? "artifacts" = none ↔
    resultsIn document = [] ∧ notificationsIn document = []

/-- The locations of the files with messages, in the order in which they first come. -/
def urisOf (options : Options) (files : List FileResult) : List Text :=
  ((files.filter fun file => takenMessages options file ≠ []).map fun file =>
    relativeUri file.path options.baseFolder).eraseDups

/-! ## The table of a run -/

/-- The locations of all messages, one after the other, are those of the files with messages. -/
theorem uris_of_emissions (options : Options) (rules : RuleTable) (files : List FileResult) :
    (Tables.of options rules (emissions options files)).uris = urisOf options files := by
  have byFile : (emissions options files).map (Emission.uri options) =
      files.flatMap fun file => List.replicate (takenMessages options file).length
        (relativeUri file.path options.baseFolder) := by
    unfold emissions
    rw [List.map_flatMap]
    apply List.flatMap_congr
    intro file _
    rw [List.map_map, ← List.map_const]
    rfl
  have sameFiles :
      (files.filter fun file => (takenMessages options file).length ≠ 0) =
        files.filter fun file => takenMessages options file ≠ [] := by
    simp only [ne_eq, List.length_eq_zero_iff]
  unfold Tables.of urisOf
  rw [byFile, eraseDups_flatMap_replicate, sameFiles]

theorem artifactsIn_logOf (options : Options) (rules : RuleTable) (tables : Tables)
    (entries : List Entry) :
    artifactsIn (logOf options rules tables entries).toJson = tables.uris.map artifactRecord := by
  rw [artifactsIn_toJson, logOf, List.map_map]
  rfl

/-! ## Entries in a document -/

/-- An entry as it is written. -/
def Entry.toJson : Entry → Json
  | .result reported => reported.toJson
  | .notification finding => finding.toJson

theorem mem_entriesIn_logOf (options : Options) (rules : RuleTable) (tables : Tables)
    (entries : List Entry) (written : Json) :
    written ∈ entriesIn (logOf options rules tables entries).toJson ↔
      ∃ entry ∈ entries, entry.toJson = written := by
  unfold entriesIn
  rw [resultsIn_toJson, notificationsIn_toJson, List.mem_append, List.mem_map, List.mem_map]
  simp only [logOf, mem_filterMap_result?, mem_filterMap_notification?]
  constructor
  · rintro (⟨result, member, equal⟩ | ⟨finding, member, equal⟩)
    · exact ⟨.result result, member, equal⟩
    · exact ⟨.notification finding, member, equal⟩
  · rintro ⟨entry, member, equal⟩
    cases entry with
    | result result => exact .inl ⟨result, member, equal⟩
    | notification finding => exact .inr ⟨finding, member, equal⟩

/-- An entry shows the location of its own file and the place of that location in the table. -/
theorem entryOf_location {options : Options} {tables : Tables} {emission : Emission} {entry : Entry}
    (made : entryOf options tables emission = .ok entry) :
    shownUri? entry.toJson = some (.text (emission.uri options)) ∧
      shownIndex? entry.toJson = some (.int (tables.uris.idxOf (emission.uri options))) := by
  unfold shownUri? shownIndex?
  rcases entryAt_cases made with ⟨_, prints, _, isEntry⟩ | ⟨ruleId, prints, _, _, isEntry⟩
  · rw [isEntry, Entry.toJson, Finding.toJson, placeOf?_members]
    simp [Entries.find?_append, findingOf, natValue]
  · rw [isEntry, Entry.toJson, Result.toJson, List.append_assoc, List.append_assoc,
      placeOf?_members]
    simp [Entries.find?_append, findingOf, natValue]

/-- **The artifacts of a document are its files with messages.**  They are listed once each in the
order in which they first come, and every entry points at its own file. -/
theorem artifacts_of_files {options : Options} {rules : RuleTable} {files : List FileResult}
    {log : Log} (built : Log.ofResults options rules files = .ok log) :
    ListsArtifacts (urisOf options files) log.toJson := by
  obtain ⟨entries, made, isLog⟩ := ofResults_eq_ok_iff.1 built
  rw [← isLog, ← uris_of_emissions options rules files]
  have nodup : (Tables.of options rules (emissions options files)).uris.Nodup := nodup_eraseDups _
  have member_uris : ∀ uri, uri ∈ (Tables.of options rules (emissions options files)).uris ↔
      ∃ emission ∈ emissions options files, emission.uri options = uri := by
    intro uri
    rw [Tables.of, List.mem_eraseDups, List.mem_map]
  refine {
    records := artifactsIn_logOf ..
    nodup := nodup
    located := ?located
    referenced := ?referenced
    absent_iff := ?absent_iff }
  case located =>
    intro written isShown
    obtain ⟨entry, member, isWritten⟩ := (mem_entriesIn_logOf ..).1 isShown
    obtain ⟨emission, isEmitted, isEntry⟩ := exists_of_forall₂_right made member
    obtain ⟨uri, index⟩ := entryOf_location isEntry
    rw [← isWritten]
    exact ⟨_, _, index, uri, getElem?_idxOf ((member_uris _).2 ⟨emission, isEmitted, rfl⟩)⟩
  case referenced =>
    intro index bound
    obtain ⟨emission, isEmitted, isUri⟩ := (member_uris _).1 (List.getElem_mem bound)
    obtain ⟨entry, member, isEntry⟩ := exists_of_forall₂_left made isEmitted
    refine ⟨entry.toJson, (mem_entriesIn_logOf ..).2 ⟨entry, member, rfl⟩, ?_⟩
    rw [(entryOf_location isEntry).2, isUri, nodup.idxOf_getElem]
  case absent_iff =>
    rw [artifacts_eq_none_iff, logOf, List.map_eq_nil_iff, ← List.append_eq_nil_iff,
      List.eq_nil_iff_forall_not_mem, List.eq_nil_iff_forall_not_mem]
    constructor
    · intro noUris written isShown
      obtain ⟨entry, member, _⟩ := (mem_entriesIn_logOf ..).1 isShown
      obtain ⟨emission, isEmitted, _⟩ := exists_of_forall₂_right made member
      exact noUris _ ((member_uris _).2 ⟨emission, isEmitted, rfl⟩)
    · intro noEntries uri listed
      obtain ⟨emission, isEmitted, _⟩ := (member_uris _).1 listed
      obtain ⟨entry, member, _⟩ := exists_of_forall₂_left made isEmitted
      exact noEntries _ ((mem_entriesIn_logOf ..).2 ⟨entry, member, rfl⟩)

theorem artifacts_of_files_sample :
    ∃ log, Log.ofResults sampleOptions sampleRules sampleFiles = .ok log ∧
      ListsArtifacts (urisOf sampleOptions sampleFiles) log.toJson := by
  obtain ⟨log, built⟩ := sample_succeeds
  exact ⟨log, built, artifacts_of_files built⟩

end Findings.Sarif
