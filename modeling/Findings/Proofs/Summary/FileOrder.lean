import Findings.Proofs.Sarif.Encodable
import Findings.Proofs.Sarif.FileOrder
import Findings.Proofs.Summary.Shown

/-!
Contract: the order of files does not show in a summary.

Owns:
- `HaveOwnLocations`, files of which no two with messages have one location;
- `same_summary_of_perm`: such files in another order make a run with the same printed summary.

Files that share a location would have their messages under one heading, in the order of the files.
With locations of their own all messages under a heading are those of one file, and the headings are
sorted.
-/

set_option autoImplicit false

namespace Findings.Summary

open Findings.Lint Findings.Sarif

/-- No two of the files of which a run takes messages in have one location. -/
def HaveOwnLocations (options : Options) (files : List FileResult) : Prop :=
  ((files.filter fun file => takenMessages options file ≠ []).map fun file =>
    relativeUri file.path options.baseFolder).Nodup

section Runs

variable {options : Options} {rules : RuleTable} {files others : List FileResult} {log : Log}

/-! ## The messages of one location -/

/-- The files at a location of which a run takes messages in. -/
def filesAt (options : Options) (uri : Text) (files : List FileResult) : List FileResult :=
  (files.filter fun file => takenMessages options file ≠ []).filter fun file =>
    relativeUri file.path options.baseFolder = uri

/-- The messages at a location are those of the files there. -/
theorem filter_emissions (options : Options) (uri : Text) (files : List FileResult) :
    (emissions options files).filter (fun emission => emission.uri options = uri) =
      emissions options (filesAt options uri files) := by
  unfold emissions filesAt
  induction files with
  | nil => rfl
  | cons file files inductionHypothesis =>
      have here : ((takenMessages options file).map (Emission.mk file)).filter
            (fun emission => emission.uri options = uri) =
          if relativeUri file.path options.baseFolder = uri then
            (takenMessages options file).map (Emission.mk file)
          else [] := by
        rw [List.filter_map]
        by_cases located : relativeUri file.path options.baseFolder = uri <;>
          simp [located, Function.comp_def, Emission.uri]
      rw [List.flatMap_cons, List.filter_append, inductionHypothesis, here]
      by_cases silent : takenMessages options file = []
      · simp [silent]
      · by_cases located : relativeUri file.path options.baseFolder = uri <;>
          simp [silent, located]

/-- Where files have locations of their own there is at most one at each, so their order is gone. -/
theorem filesAt_of_perm (own : HaveOwnLocations options files) (sameFiles : others.Perm files)
    (uri : Text) : filesAt options uri others = filesAt options uri files := by
  have atMostOne : ∀ {list : List FileResult}, HaveOwnLocations options list →
      (filesAt options uri list).Pairwise fun _ _ => False := by
    intro list ownLocations
    unfold filesAt
    refine List.Pairwise.imp_of_mem ?_ ((List.pairwise_map.1 ownLocations).filter _)
    intro left right isLeft isRight different
    have leftThere := (List.mem_filter.1 isLeft).2
    have rightThere := (List.mem_filter.1 isRight).2
    rw [decide_eq_true_eq] at leftThere rightThere
    exact different (leftThere.trans rightThere.symm)
  have otherOwn : HaveOwnLocations options others :=
    (((sameFiles.filter _).map _).nodup_iff).2 own
  exact List.Perm.eq_of_pairwise (fun _ _ _ _ impossible => impossible.elim)
    (atMostOne otherOwn) (atMostOne own) ((sameFiles.filter _).filter _)

/-! ## The view of a run -/

/-- What is shown under a heading is what is shown of the messages at that location. -/
theorem itemsUnder_located (options : Options) (uri : Text) (sequence : List Emission) :
    itemsUnder uri ((notificationsFirst sequence).map (locatedEmission options)) =
      (notificationsFirst (sequence.filter fun emission => emission.uri options = uri)).map
        (Entry.ofEmission options) := by
  unfold itemsUnder notificationsFirst
  rw [List.filter_map, List.map_map, List.filter_append, List.filter_filter, List.filter_filter,
    List.filter_filter, List.filter_filter]
  simp only [Function.comp_def, locatedEmission, Bool.and_comm]
  rfl

/-- Messages in another order have the same view if those at each location keep their order. -/
theorem ofEmissions_of_perm (options : Options) (rules : RuleTable) (details : Bool)
    {sequence reordered : List Emission} (sameEmissions : reordered.Perm sequence)
    (sameOrder : ∀ uri, reordered.filter (fun emission => emission.uri options = uri) =
      sequence.filter fun emission => emission.uri options = uri) :
    View.ofEmissions options rules details reordered =
      View.ofEmissions options rules details sequence := by
  have sameShown : (notificationsFirst reordered).Perm (notificationsFirst sequence) :=
    (notificationsFirst_perm reordered).trans
      (sameEmissions.trans (notificationsFirst_perm sequence).symm)
  have sameItems : ∀ uri,
      itemsUnder uri ((notificationsFirst reordered).map (locatedEmission options)) =
        itemsUnder uri ((notificationsFirst sequence).map (locatedEmission options)) := by
    intro uri
    rw [itemsUnder_located, itemsUnder_located, sameOrder]
  have sameGroups :
      groupsOfLocated ((notificationsFirst reordered).map (locatedEmission options)) =
        groupsOfLocated ((notificationsFirst sequence).map (locatedEmission options)) := by
    unfold groupsOfLocated
    rw [groupSorted_congr ((sameShown.map _).map Prod.fst) sameItems]
  unfold View.ofEmissions
  rw [sameGroups, (@uris_perm options rules _ _ sameEmissions).length_eq,
    (@ruleIds_perm options rules _ _ sameEmissions).length_eq, sameEmissions.countP_eq,
    sameEmissions.countP_eq, sameEmissions.countP_eq, sameEmissions.all_eq]

/-! ## Runs over files in another order -/

/-- Whether a run succeeds does not depend on the order of its files. -/
theorem exists_log_of_perm (built : Log.ofResults options rules files = .ok log)
    (sameFiles : others.Perm files) :
    ∃ otherLog, Log.ofResults options rules others = .ok otherLog := by
  have faultless := exists_log_iff.1 ⟨log, built⟩
  exact exists_log_iff.2 fun emission isEmitted =>
    faultless emission ((emissions_perm options sameFiles).mem_iff.1 isEmitted)

/-- **The order of files does not show.**  If the files with messages have locations of their own, a
run over them in any order has the same printed summary. -/
theorem same_summary_of_perm (own : HaveOwnLocations options files)
    (built : Log.ofResults options rules files = .ok log) (sameFiles : others.Perm files) :
    ∃ otherLog, Log.ofResults options rules others = .ok otherLog ∧
      ∀ (width : Nat) (details : Bool), ∃ printed, ofLog width details log = .ok printed ∧
        ofLog width details otherLog = .ok printed := by
  obtain ⟨otherLog, otherBuilt⟩ := exists_log_of_perm built sameFiles
  refine ⟨otherLog, otherBuilt, fun width details => ?_⟩
  have sameOrder : ∀ uri,
      (emissions options others).filter (fun emission => emission.uri options = uri) =
        (emissions options files).filter fun emission => emission.uri options = uri := by
    intro uri
    rw [filter_emissions, filter_emissions, filesAt_of_perm own sameFiles]
  have sameView : View.ofLog details otherLog = View.ofLog details log := by
    rw [ofLog_eq_ofEmissions details otherBuilt, ofLog_eq_ofEmissions details built]
    exact ofEmissions_of_perm options rules details (emissions_perm options sameFiles) sameOrder
  exact ⟨(View.ofLog details log).print width, ofLog_eq_print width details log,
    by rw [ofLog_eq_print, sameView]⟩

end Runs

/-! ## Two files -/

/-- Two files with messages, in different places, of which the one named first comes last. -/
def separateFiles : List FileResult := [
  { path := "/repo/b.js"
    messages := [
      { text := "first", ruleId := some "semi", line := some 3 },
      { text := "second", severity := 2 }] },
  { path := "/repo/a.js", messages := [{ text := "third", ruleId := some "curly" }] }]

theorem same_summary_of_perm_reverse :
    ∃ log otherLog, HaveOwnLocations sampleOptions separateFiles ∧
      Log.ofResults sampleOptions sampleRules separateFiles = .ok log ∧
      Log.ofResults sampleOptions sampleRules separateFiles.reverse = .ok otherLog ∧
      ∀ (width : Nat) (details : Bool), ∃ printed, ofLog width details log = .ok printed ∧
        ofLog width details otherLog = .ok printed := by
  have own : HaveOwnLocations sampleOptions separateFiles := by
    unfold HaveOwnLocations
    decide +kernel
  obtain ⟨log, built⟩ : ∃ log, Log.ofResults sampleOptions sampleRules separateFiles = .ok log :=
    ⟨_, rfl⟩
  obtain ⟨otherLog, otherBuilt, same⟩ :=
    same_summary_of_perm own built separateFiles.reverse_perm
  exact ⟨log, otherLog, own, built, otherBuilt, same⟩

end Findings.Summary
