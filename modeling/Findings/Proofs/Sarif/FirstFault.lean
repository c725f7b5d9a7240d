import Findings.Proofs.Sarif.Encodable

/-!
Contract: which texts can make a run fail.

Owns:
- `Text.BeginsSurrogates`, where the surrogates of a text begin, which is what an encoder tells of a
  text that it refuses;
- `Emission.printedTexts`, the texts of a message that get fingerprints, in the order in which they
  get them;
- `fails_at_first_unencodable`: a run fails with the first of these texts that has a surrogate, and
  with nothing else.

Does not own: how the run comes to the fault of a message (`Findings.Proofs.Sarif.Encodable`).
-/

set_option autoImplicit false

namespace Findings

/-! ## Where surrogates begin -/

namespace Text

/-- In front of the first run of surrogates there are none, and behind it stands something else.
The fault holds the place of the run, its length and its first code point. -/
inductive BeginsSurrogates : Text → EncodeFault → Prop where
  | run {front run rest : Text} {first : CodePoint} (frontFree : front.IsSurrogateFree)
      (isSurrogate : first.isSurrogate = true) (areSurrogates : ∀ c ∈ run, c.isSurrogate = true)
      (ends : ∀ c ∈ rest.head?, c.isSurrogate = false) :
      BeginsSurrogates (front ++ first :: (run ++ rest)) ⟨front.length, 1 + run.length, first⟩

theorem surrogateRun?_eq_some_iff {text : Text} {fault : EncodeFault} :
    surrogateRun? text = some fault ↔ text.BeginsSurrogates fault := by
  constructor
  · intro found
    unfold surrogateRun? at found
    split at found
    · cases found
    · rename_i first behind isBehind
      cases found
      have whole : text = text.takeWhile (fun c => !c.isSurrogate) ++
          first :: (behind.takeWhile CodePoint.isSurrogate
            ++ behind.dropWhile CodePoint.isSurrogate) := by
        rw [List.takeWhile_append_dropWhile, ← isBehind, List.takeWhile_append_dropWhile]
      have frontFree : IsSurrogateFree (text.takeWhile fun c => !c.isSurrogate) := by
        intro c member
        simpa using List.mem_takeWhile_imp member
      have isSurrogate : first.isSurrogate = true := by
        have isFirst := List.head?_dropWhile_not (fun c : CodePoint => !c.isSurrogate) text
        rw [isBehind] at isFirst
        simpa using isFirst
      have ends : ∀ c ∈ (behind.dropWhile CodePoint.isSurrogate).head?, c.isSurrogate = false := by
        intro c isNext
        have isNot := List.head?_dropWhile_not CodePoint.isSurrogate behind
        rw [Option.mem_def.1 isNext] at isNot
        exact isNot
      have areSurrogates : ∀ c ∈ behind.takeWhile CodePoint.isSurrogate, c.isSurrogate = true :=
        fun c member => List.mem_takeWhile_imp member
      have begins := BeginsSurrogates.run frontFree isSurrogate areSurrogates ends
      rw [← whole] at begins
      exact begins
  · intro begins
    cases begins with
    | @run front run rest first frontFree isSurrogate areSurrogates ends =>
        obtain ⟨isFront, isBehind⟩ := @takeWhile_dropWhile_append
          (fun c => !c.isSurrogate) front (first :: (run ++ rest))
          (fun c member => by rw [frontFree c member]; rfl)
          (fun c isNext => by cases isNext; rw [isSurrogate]; rfl)
        unfold surrogateRun?
        rw [isBehind, isFront]
        dsimp only
        rw [(takeWhile_dropWhile_append areSurrogates ends).1]

end Text

namespace Sarif

open Findings.Lint

/-! ## The texts with fingerprints -/

/-- The texts of a message that get fingerprints, in the order in which they get them: its own text,
the location of its file, and its rule id if it has one. -/
def Emission.printedTexts (options : Options) (emission : Emission) : List Text :=
  emission.message.text :: emission.uri options :: emission.message.ruleId.toList

/-- The fault of a list of texts is that of the first one with a surrogate. -/
def IsFirstFault (texts : List Text) (fault : Text.EncodeFault) : Prop :=
  ∃ before text after, texts = before ++ text :: after ∧
    (∀ other ∈ before, other.IsSurrogateFree) ∧ text.BeginsSurrogates fault

theorem findSome?_surrogateRun?_eq_some_iff {texts : List Text} {fault : Text.EncodeFault} :
    texts.findSome? Text.surrogateRun? = some fault ↔ IsFirstFault texts fault := by
  unfold IsFirstFault
  simp only [List.findSome?_eq_some_iff, Text.surrogateRun?_eq_none_iff,
    Text.surrogateRun?_eq_some_iff]
  constructor
  · rintro ⟨before, text, after, isWhole, begins, areFree⟩
    exact ⟨before, text, after, isWhole, areFree, begins⟩
  · rintro ⟨before, text, after, isWhole, areFree, begins⟩
    exact ⟨before, text, after, isWhole, begins, areFree⟩

/-- An empty rule id counts as none in a run; it has no surrogate, so it makes no difference
here. -/
theorem Emission.encodeFault?_eq (options : Options) (emission : Emission) :
    emission.encodeFault? options =
      if options.fingerprints then
        (emission.printedTexts options).findSome? Text.surrogateRun?
      else none := by
  have ofRule : (properRuleId emission.message).bind Text.surrogateRun? =
      emission.message.ruleId.toList.findSome? Text.surrogateRun? := by
    unfold properRuleId
    rcases emission.message.ruleId with _ | _ | ⟨c, rest⟩
    · rfl
    · rfl
    · have kept : Option.filter (fun ruleId : Text => !ruleId.isEmpty) (some (c :: rest)) =
          some (c :: rest) := rfl
      rw [kept, Option.bind_some, Option.toList_some, List.findSome?_singleton]
  unfold encodeFault? printedTexts
  rw [ofRule, List.findSome?_cons, List.findSome?_cons]
  cases Text.surrogateRun? emission.message.text <;>
    cases Text.surrogateRun? (emission.uri options) <;> rfl

/-! ## Runs -/

section Runs

variable (options : Options) (rules : RuleTable) (files : List FileResult)

theorem ofResults_eq_error_iff_first {fault : Text.EncodeFault} :
    Log.ofResults options rules files = .error fault ↔
      options.fingerprints = true ∧
        ((emissions options files).map (Emission.printedTexts options)).findSome?
          (List.findSome? Text.surrogateRun?) = some fault := by
  rw [ofResults_eq_error_iff]
  have isFault : Emission.encodeFault? options = fun emission =>
      if options.fingerprints then
        (emission.printedTexts options).findSome? Text.surrogateRun?
      else none := funext (Emission.encodeFault?_eq options)
  rw [isFault, List.findSome?_map]
  cases options.fingerprints with
  | true => simp [Function.comp_def]
  | false =>
      have nothing : (emissions options files).findSome?
          (fun _ => (none : Option Text.EncodeFault)) = none :=
        List.findSome?_eq_none_iff.2 fun _ _ => rfl
      simp [nothing]

/-- **When a run fails.**  With fingerprints it fails at the first message of which a text that gets
one has a surrogate, with the fault of the first such text: the text of the message, the location of
its file, or its rule id.  Nothing else that it works on matters, and without fingerprints nothing
does. -/
theorem fails_at_first_unencodable :
    (∀ fault, Log.ofResults options rules files = .error fault ↔
      options.fingerprints = true ∧
        ∃ before emission after, emissions options files = before ++ emission :: after ∧
          (∀ earlier ∈ before, ∀ text ∈ earlier.printedTexts options, text.IsSurrogateFree) ∧
          IsFirstFault (emission.printedTexts options) fault) ∧
    ((∃ fault, Log.ofResults options rules files = .error fault) ↔
      options.fingerprints = true ∧
        ∃ emission ∈ emissions options files, ∃ text ∈ emission.printedTexts options,
          ∃ c ∈ text, c.isSurrogate = true) ∧
    (options.fingerprints = false → ∃ log, Log.ofResults options rules files = .ok log) ∧
    ∀ (otherOptions : Options) (otherRules : RuleTable) (otherFiles : List FileResult),
      otherOptions.fingerprints = options.fingerprints →
      (emissions otherOptions otherFiles).map (Emission.printedTexts otherOptions) =
        (emissions options files).map (Emission.printedTexts options) →
      ∀ fault, Log.ofResults otherOptions otherRules otherFiles = .error fault ↔
        Log.ofResults options rules files = .error fault := by
  refine ⟨fun fault => ?first, ?some, ?unprinted, ?alike⟩
  case first =>
    rw [ofResults_eq_error_iff_first, List.findSome?_map, List.findSome?_eq_some_iff]
    simp only [Function.comp_apply, findSome?_surrogateRun?_eq_some_iff,
      List.findSome?_eq_none_iff, Text.surrogateRun?_eq_none_iff]
    refine and_congr_right fun _ => ?_
    constructor
    · rintro ⟨before, emission, after, isWhole, isFirst, areFree⟩
      exact ⟨before, emission, after, isWhole, areFree, isFirst⟩
    · rintro ⟨before, emission, after, isWhole, areFree, isFirst⟩
      exact ⟨before, emission, after, isWhole, isFirst, areFree⟩
  case some =>
    have unfit_iff : ∀ text : Text, (Text.surrogateRun? text).isSome ↔
        ∃ c ∈ text, c.isSurrogate = true := by
      intro text
      rw [Option.isSome_iff_ne_none, ne_eq, Text.surrogateRun?_eq_none_iff]
      simp [Text.IsSurrogateFree]
    simp only [ofResults_eq_error_iff_first, exists_and_left]
    refine and_congr_right fun _ => ?_
    rw [← Option.isSome_iff_exists, List.findSome?_map, List.findSome?_isSome_iff]
    simp only [Function.comp_apply, List.findSome?_isSome_iff, unfit_iff]
  case unprinted =>
    intro unprinted
    cases built : Log.ofResults options rules files with
    | ok log => exact ⟨log, rfl⟩
    | error fault =>
        have printed := ((ofResults_eq_error_iff_first options rules files).1 built).1
        rw [unprinted] at printed
        cases printed
  case alike =>
    intro otherOptions otherRules otherFiles samePrints sameTexts fault
    rw [ofResults_eq_error_iff_first, ofResults_eq_error_iff_first, samePrints, sameTexts]

end Runs

/-! ## A rule id with a surrogate -/

/-- A surrogate without a partner. -/
def loneSurrogate : CodePoint := ⟨0xD800, by decide⟩

/-- A file without messages, and one with surrogates in a folder that is taken back, in a source, in
a justification, and at last in a rule id. -/
def surrogateFiles : List FileResult :=
  [{ path := [loneSurrogate] },
    { path := loneSurrogate :: Text.ofString "/../a.js"
      messages := [
        { text := "first"
          source := some [loneSurrogate]
          suppressions := some [{ kind := "directive", justification := some [loneSurrogate] }] },
        { text := "second"
          ruleId := some (Text.ofString "no-" ++ [loneSurrogate]) }] }]

/-- The rule id is the first text that cannot be encoded, behind three code points that can; without
fingerprints no text has to be. -/
theorem fails_at_first_unencodable_sample :
    Log.ofResults {} [] surrogateFiles = .error ⟨3, 1, loneSurrogate⟩ ∧
      ∃ log, Log.ofResults { fingerprints := false } [] surrogateFiles = .ok log := by
  have fails := fails_at_first_unencodable {} [] surrogateFiles
  have succeeds := fails_at_first_unencodable { fingerprints := false } [] surrogateFiles
  have isRun : Text.BeginsSurrogates (Text.ofString "no-" ++ [loneSurrogate])
      ⟨3, 1, loneSurrogate⟩ :=
    Text.surrogateRun?_eq_some_iff.1 (by decide +kernel)
  have firstTexts : ∀ earlier ∈ (emissions {} surrogateFiles).take 1,
      ∀ text ∈ earlier.printedTexts {}, ∀ c ∈ text, c.isSurrogate = false := by decide +kernel
  refine ⟨(fails.1 _).2 ⟨rfl, (emissions {} surrogateFiles).take 1, _, [], rfl, firstTexts,
    [Text.ofString "second", Text.ofString "a.js"], _, [], ?_, ?_, isRun⟩, succeeds.2.2.1 rfl⟩
  · decide +kernel
  · exact List.forall_mem_cons.2 ⟨Text.isSurrogateFree_ofString _,
      List.forall_mem_singleton.2 (Text.isSurrogateFree_ofString _)⟩

end Sarif

end Findings
