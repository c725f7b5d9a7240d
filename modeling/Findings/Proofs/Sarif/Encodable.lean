import Findings.Proofs.Sarif.Run
import Findings.Proofs.Text.Joined
import Mathlib.Data.List.TakeWhile

/-!
Contract: runs whose fingerprints cannot be made.

Owns:
- a text has a fingerprint just when there is no surrogate in it;
- the run fails with the first message that has a text without a fingerprint, and does not fail at
  all without fingerprints (`ofResults_eq_error_iff`, `exists_log_iff`).
-/

set_option autoImplicit false

namespace Findings

theorem Text.surrogateRun?_eq_none_iff (text : Text) :
    Text.surrogateRun? text = none ↔ text.IsSurrogateFree := by
  unfold Text.surrogateRun? Text.IsSurrogateFree
  constructor
  · intro noRun
    split at noRun
    · rename_i passed
      intro c member
      have isPassed := List.dropWhile_eq_nil_iff.1 passed c member
      simpa using isPassed
    · cases noRun
  · intro free
    have passed : text.dropWhile (fun c => !c.isSurrogate) = [] := by
      rw [List.dropWhile_eq_nil_iff]
      intro c member
      rw [free c member]
      rfl
    rw [passed]

namespace Sarif

open Findings.Lint

/-! ## Fingerprints -/

theorem fingerprint_of_run {text : Text} {fault : Text.EncodeFault}
    (run : Text.surrogateRun? text = some fault) : fingerprint text = .error fault := by
  unfold fingerprint Text.encodeUtf8
  rw [run]
  rfl

theorem fingerprint_of_no_run {text : Text} (noRun : Text.surrogateRun? text = none) :
    ∃ print, fingerprint text = .ok print := by
  unfold fingerprint Text.encodeUtf8
  rw [noRun]
  exact ⟨_, rfl⟩

/-- Every text of a message that has a fingerprint can be encoded: its own text, the location of its
file, and its rule id. -/
structure Emission.IsEncodable (options : Options) (emission : Emission) : Prop where
  text : emission.message.text.IsSurrogateFree
  uri : (emission.uri options).IsSurrogateFree
  ruleId : ∀ ruleId, emission.message.ruleId = some ruleId → ruleId.IsSurrogateFree

/-- The first fault in the texts of a message of which the run makes fingerprints: in its own text,
in the location of its file, or in its rule id. -/
def Emission.encodeFault? (options : Options) (emission : Emission) : Option Text.EncodeFault :=
  if options.fingerprints then
    ((Text.surrogateRun? emission.message.text).or (Text.surrogateRun? (emission.uri options))).or
      ((properRuleId emission.message).bind Text.surrogateRun?)
  else none

theorem Emission.encodeFault?_eq_none_iff (options : Options) (emission : Emission) :
    emission.encodeFault? options = none ↔
      (options.fingerprints = true → emission.IsEncodable options) := by
  unfold Emission.encodeFault?
  cases options.fingerprints with
  | false => simp
  | true =>
      rw [if_pos rfl, Option.or_eq_none_iff, Option.or_eq_none_iff,
        Text.surrogateRun?_eq_none_iff, Text.surrogateRun?_eq_none_iff, Option.bind_eq_none_iff]
      constructor
      · rintro ⟨⟨text, uri⟩, ruleId⟩ _
        refine ⟨text, uri, fun given isGiven => ?_⟩
        by_cases empty : given = []
        · rw [empty]
          exact fun c member => absurd member List.not_mem_nil
        · have isRule := (properRuleId_eq_some_iff _ _).2 ⟨isGiven, empty⟩
          exact (Text.surrogateRun?_eq_none_iff given).1 (ruleId given isRule)
      · intro encodable
        obtain ⟨text, uri, ruleId⟩ := encodable rfl
        refine ⟨⟨text, uri⟩, fun given isRule => ?_⟩
        have isGiven := ((properRuleId_eq_some_iff _ _).1 isRule).1
        exact (Text.surrogateRun?_eq_none_iff given).2 (ruleId given isGiven)

/-! ## Runs -/

/-- A message has no entry just when there is a fault in its texts, wherever its file and its rule
are listed. -/
theorem entryOf_eq_error_iff (options : Options) (tables : Tables) (emission : Emission)
    (fault : Text.EncodeFault) :
    entryOf options tables emission = .error fault ↔
      emission.encodeFault? options = some fault := by
  unfold entryOf entryAt Draft.fingerprintsOf Emission.encodeFault?
  cases options.fingerprints with
  | false =>
      cases properRuleId emission.message <;> simp [Draft.withRuleFingerprint, pure, Except.pure]
  | true =>
      rw [if_pos rfl, if_pos rfl]
      cases textRun : Text.surrogateRun? emission.message.text with
      | some textFault =>
          rw [fingerprint_of_run textRun]
          simp
      | none =>
          obtain ⟨textPrint, isTextPrint⟩ := fingerprint_of_no_run textRun
          rw [isTextPrint, ok_bind]
          cases uriRun : Text.surrogateRun? (emission.uri options) with
          | some uriFault =>
              rw [fingerprint_of_run uriRun]
              simp
          | none =>
              obtain ⟨uriPrint, isUriPrint⟩ := fingerprint_of_no_run uriRun
              rw [isUriPrint]
              cases properRuleId emission.message with
              | none => simp
              | some ruleId =>
                  cases ruleRun : Text.surrogateRun? ruleId with
                  | some ruleFault =>
                      simp [Draft.withRuleFingerprint, fingerprint_of_run ruleRun, ruleRun]
                  | none =>
                      obtain ⟨rulePrint, isRulePrint⟩ := fingerprint_of_no_run ruleRun
                      simp [Draft.withRuleFingerprint, isRulePrint, ruleRun]

/-- **When a run fails.**  It fails with the fault of the first message that has one. -/
theorem ofResults_eq_error_iff {options : Options} {rules : RuleTable} {files : List FileResult}
    {fault : Text.EncodeFault} :
    Log.ofResults options rules files = .error fault ↔
      (emissions options files).findSome? (Emission.encodeFault? options) = some fault := by
  rw [ofResults_eq, ← mapM_eq_error_iff (entryOf_eq_error_iff options
    (Tables.of options rules (emissions options files)))]
  cases (emissions options files).mapM
      (entryOf options (Tables.of options rules (emissions options files))) <;> simp

/-- A run succeeds just when none of its messages has a fault. -/
theorem exists_log_iff {options : Options} {rules : RuleTable} {files : List FileResult} :
    (∃ log, Log.ofResults options rules files = .ok log) ↔
      ∀ emission ∈ emissions options files, emission.encodeFault? options = none := by
  rw [← List.findSome?_eq_none_iff]
  cases made : Log.ofResults options rules files with
  | error fault =>
      rw [ofResults_eq_error_iff.1 made]
      simp
  | ok log =>
      refine iff_of_true ⟨log, rfl⟩ ?_
      rw [Option.eq_none_iff_forall_ne_some]
      intro fault isFault
      rw [ofResults_eq_error_iff.2 isFault] at made
      cases made

/-- A run fails just when it makes fingerprints and one of its messages cannot be encoded. -/
theorem exists_ofResults_eq_error_iff {options : Options} {rules : RuleTable}
    {files : List FileResult} :
    (∃ fault, Log.ofResults options rules files = .error fault) ↔
      options.fingerprints = true ∧
        ∃ emission ∈ emissions options files, ¬ emission.IsEncodable options := by
  simp only [ofResults_eq_error_iff]
  rw [← Option.isSome_iff_exists, List.findSome?_isSome_iff]
  constructor
  · rintro ⟨emission, member, faulty⟩
    rw [Option.isSome_iff_ne_none, ne_eq, Emission.encodeFault?_eq_none_iff,
      Classical.not_imp] at faulty
    exact ⟨faulty.1, emission, member, faulty.2⟩
  · rintro ⟨printed, emission, member, unencodable⟩
    refine ⟨emission, member, ?_⟩
    rw [Option.isSome_iff_ne_none, ne_eq, Emission.encodeFault?_eq_none_iff]
    exact fun encodable => unencodable (encodable printed)

end Sarif

end Findings
