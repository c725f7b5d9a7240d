import Findings.Proofs.Command.Arguments
import Findings.Proofs.Command.Values
import Findings.Proofs.Config.Choices

/-!
Contract: choices that are written on the command line.

Owns:
- the arguments that make choices, and what is read of a command line with these arguments in front
  (`ofArguments_flags`);
- what is found of every option that chooses something, in front of arguments that leave all of them
  open;
- the paths among the choices, which are paths that can be looked at.
-/

set_option autoImplicit false

namespace Findings.Command

open Config (Choices ChosenText)

/-! ## Arguments -/

/-- An option with its value in one argument. -/
def withValue (name : String) (value : Text) : Text :=
  Text.ofString "--" ++ Text.ofString name ++ Text.ofString "=" ++ value

/-- The argument of an option that is chosen, with what is read of it. -/
def flagIf (name : String) (chosen : Bool) : List (Text × Occurrence) :=
  if chosen then [(Text.ofString "--" ++ Text.ofString name, { name := Text.ofString name })] else []

/-- The argument of an option whose value is chosen, with what is read of it. -/
def flagOf (name : String) (chosen : Option ChosenText) : List (Text × Occurrence) :=
  chosen.toList.map fun chosen =>
    (withValue name chosen.text, { name := Text.ofString name, value := some chosen.text })

/-- The options that choose something. -/
def choosingOptions : List Text :=
  ["ignore-suppressed", "include-suppressed", "tool-name", "tool-version", "base-folder",
    "no-fingerprints", "output"]

end Findings.Command

namespace Findings.Config.Choices

open Findings.Command

variable (choices : Choices)

/-- The arguments that make the choices, each with what is read of it. -/
def written : List (Text × Occurrence) :=
  flagIf "ignore-suppressed" choices.ignoreSuppressed ++ flagOf "tool-name" choices.toolName
    ++ flagOf "tool-version" choices.toolVersion ++ flagOf "base-folder" choices.baseFolder
    ++ flagIf "no-fingerprints" choices.noFingerprints ++ flagOf "output" choices.output

/-- The arguments that make the choices. -/
def flags : List Text := choices.written.map Prod.fst

/-- What is read of these arguments. -/
def reading : Reading where
  occurrences := choices.written.map Prod.snd

end Findings.Config.Choices

namespace Findings.Command

open Config (Choices ChosenText)

section Flags

theorem step_withValue {name : String} (isOption : name ∈ ["tool-name", "tool-version",
    "base-folder", "output"]) (value : Text) :
    Reading.step convertRules true {} (withValue name value) =
      .ok (Reading.behind { occurrences :=
        [{ name := Text.ofString name, value := some value }] } {}) := by
  simp only [List.mem_cons, List.not_mem_nil, or_false] at isOption
  rcases isOption with rfl | rfl | rfl | rfl <;> rfl

theorem step_flag {name : String} (isOption : name ∈ ["ignore-suppressed", "no-fingerprints"]) :
    Reading.step convertRules true {} (Text.ofString "--" ++ Text.ofString name) =
      .ok (Reading.behind { occurrences := [{ name := Text.ofString name }] } {}) := by
  simp only [List.mem_cons, List.not_mem_nil, or_false] at isOption
  rcases isOption with rfl | rfl <;> rfl

theorem step_of_mem_flagIf {name : String} {chosen : Bool}
    (isOption : name ∈ ["ignore-suppressed", "no-fingerprints"])
    {use : Text × Occurrence} (member : use ∈ flagIf name chosen) :
    Reading.step convertRules true {} use.1 = .ok (Reading.behind { occurrences := [use.2] } {}) := by
  cases chosen with
  | false => cases member
  | true =>
      rw [List.mem_singleton.1 member]
      exact step_flag isOption

theorem step_of_mem_flagOf {name : String} {chosen : Option ChosenText}
    (isOption : name ∈ ["tool-name", "tool-version", "base-folder", "output"])
    {use : Text × Occurrence} (member : use ∈ flagOf name chosen) :
    Reading.step convertRules true {} use.1 = .ok (Reading.behind { occurrences := [use.2] } {}) := by
  obtain ⟨text, _, rfl⟩ := List.mem_map.1 member
  exact step_withValue isOption text.text

/-- **Choices in front.**  What is read of a command line behind the arguments that make choices is
what is read without them, and the choices. -/
theorem ofArguments_flags (choices : Choices) (rest : List Text) :
    Reading.ofArguments convertRules true (choices.flags ++ rest) =
      (Reading.ofArguments convertRules true rest).map choices.reading.behind := by
  apply Reading.ofArguments_append_of_uses
  intro use member
  simp only [Choices.written, List.mem_append] at member
  rcases member with ((((isIgnored | isName) | isVersion) | isFolder) | isUnprinted) | isOutput
  · exact step_of_mem_flagIf (by decide) isIgnored
  · exact step_of_mem_flagOf (by decide) isName
  · exact step_of_mem_flagOf (by decide) isVersion
  · exact step_of_mem_flagOf (by decide) isFolder
  · exact step_of_mem_flagIf (by decide) isUnprinted
  · exact step_of_mem_flagOf (by decide) isOutput

/-! ## Options -/

theorem uses_flagIf (name other : String) (chosen : Bool) :
    ((flagIf name chosen).map Prod.snd).any (fun use => use.name = Text.ofString other) =
      (decide (name = other) && chosen) := by
  unfold flagIf
  cases chosen <;> simp

theorem uses_flagOf (name other : String) (chosen : Option ChosenText) :
    ((flagOf name chosen).map Prod.snd).any (fun use => use.name = Text.ofString other) =
      (decide (name = other) && chosen.isSome) := by
  unfold flagOf
  cases chosen <;> simp

theorem find?_flagIf (name other : String) (chosen : Bool) :
    ((flagIf name chosen).map Prod.snd).reverse.find? (fun use => use.name = Text.ofString other) =
      if name = other ∧ chosen then some { name := Text.ofString name } else none := by
  unfold flagIf
  cases chosen <;> simp

theorem find?_flagOf (name other : String) (chosen : Option ChosenText) :
    ((flagOf name chosen).map Prod.snd).reverse.find? (fun use => use.name = Text.ofString other) =
      if name = other then chosen.map fun chosen =>
        { name := Text.ofString name, value := some chosen.text }
      else none := by
  unfold flagOf
  cases chosen <;> simp

variable (choices : Choices)

theorem uses_choices (other : String) :
    choices.reading.uses (Text.ofString other) =
      ((decide ("ignore-suppressed" = other) && choices.ignoreSuppressed)
        || (decide ("tool-name" = other) && choices.toolName.isSome)
        || (decide ("tool-version" = other) && choices.toolVersion.isSome)
        || (decide ("base-folder" = other) && choices.baseFolder.isSome)
        || (decide ("no-fingerprints" = other) && choices.noFingerprints)
        || (decide ("output" = other) && choices.output.isSome)) := by
  unfold Choices.reading Choices.written Reading.uses
  simp only [List.map_append, List.any_append, uses_flagIf, uses_flagOf]

theorem value?_choices :
    choices.reading.value? "tool-name" = choices.toolName.map ChosenText.text ∧
      choices.reading.value? "tool-version" = choices.toolVersion.map ChosenText.text ∧
      choices.reading.value? "base-folder" = choices.baseFolder.map ChosenText.text ∧
      choices.reading.value? "output" = choices.output.map ChosenText.text := by
  unfold Choices.reading Choices.written Reading.value?
  simp only [List.map_append, List.reverse_append, List.find?_append, find?_flagIf, find?_flagOf]
  refine ⟨?_, ?_, ?_, ?_⟩
  · cases choices.toolName <;> simp
  · cases choices.toolVersion <;> simp
  · cases choices.baseFolder <;> simp
  · cases choices.output <;> simp

theorem name_of_mem_flagIf {name : String} {chosen : Bool} {use : Text × Occurrence}
    (member : use ∈ flagIf name chosen) : use.2.name = Text.ofString name := by
  unfold flagIf at member
  split at member
  · rw [List.mem_singleton.1 member]
  · cases member

theorem name_of_mem_flagOf {name : String} {chosen : Option ChosenText} {use : Text × Occurrence}
    (member : use ∈ flagOf name chosen) : use.2.name = Text.ofString name := by
  obtain ⟨_, _, rfl⟩ := List.mem_map.1 member
  rfl

/-- Only options that choose something are used. -/
theorem mem_of_uses_choices {name : Text} (used : choices.reading.uses name = true) :
    name ∈ choosingOptions := by
  obtain ⟨_, isUse, isName⟩ := List.any_eq_true.1 used
  obtain ⟨use, member, rfl⟩ := List.mem_map.1 isUse
  rw [← of_decide_eq_true isName]
  simp only [Choices.written, List.mem_append] at member
  rcases member with ((((isIgnored | isTool) | isVersion) | isFolder) | isUnprinted) | isOutput
  · rw [name_of_mem_flagIf isIgnored]
    decide
  · rw [name_of_mem_flagOf isTool]
    decide
  · rw [name_of_mem_flagOf isVersion]
    decide
  · rw [name_of_mem_flagOf isFolder]
    decide
  · rw [name_of_mem_flagIf isUnprinted]
    decide
  · rw [name_of_mem_flagOf isOutput]
    decide

/-! ## Paths -/

/-- A text that can be chosen can be a path. -/
theorem isPathText_of_chosen (chosen : ChosenText) : Files.IsPathText chosen.text := by
  intro c member
  refine ⟨chosen.noNull c member, fun isSurrogate => ?_⟩
  rw [chosen.free c member] at isSurrogate
  cases isSurrogate

/-- What is asked of a path among the choices is kept. -/
theorem checkValue_of_chosen (surroundings : Surroundings) {rule : ValueRule}
    (noDirectory : rule ≠ .directory) (chosen : ChosenText) :
    checkValue surroundings rule chosen.text = .ok () := by
  have fits := isPathText_of_chosen chosen
  cases rule with
  | none => rfl
  | text => rfl
  | directory => exact absurd rfl noDirectory
  | path =>
      rcases checksPath_checkText chosen.text with ⟨_, accepted⟩ | ⟨unfit, _⟩
      · exact accepted
      · exact absurd fits unfit
  | absolutePath =>
      rcases checksPath_resolutionSteps chosen.text with ⟨_, accepted⟩ | ⟨unfit, _⟩
      · exact accepted
      · exact absurd fits unfit

theorem value_of_mem_flagIf {name : String} {chosen : Bool} {use : Text × Occurrence}
    (member : use ∈ flagIf name chosen) : use.2.value = none := by
  unfold flagIf at member
  split at member
  · rw [List.mem_singleton.1 member]
  · cases member

theorem exists_chosen_of_mem_flagOf {name : String} {chosen : Option ChosenText}
    {use : Text × Occurrence} (member : use ∈ flagOf name chosen) :
    ∃ text : ChosenText, use.2.value = some text.text := by
  obtain ⟨text, _, rfl⟩ := List.mem_map.1 member
  exact ⟨text, rfl⟩

/-- Every value on the command line is a chosen text. -/
theorem exists_chosen_of_value? {name value : Text}
    (isValue : choices.reading.value? name = some value) :
    ∃ chosen : ChosenText, chosen.text = value := by
  obtain ⟨use, found, hasValue⟩ := Option.bind_eq_some_iff.1 isValue
  obtain ⟨pair, member, rfl⟩ := List.mem_map.1 (List.mem_reverse.1 (List.mem_of_find?_eq_some found))
  have fromFlag : ∀ {use : Text × Occurrence}, use.2.value = some value →
      (∃ text : ChosenText, use.2.value = some text.text) →
      ∃ chosen : ChosenText, chosen.text = value := by
    rintro use isValue ⟨chosen, isChosen⟩
    exact ⟨chosen, Option.some.inj (isChosen.symm.trans isValue)⟩
  have noFlag : ∀ {use : Text × Occurrence}, use.2.value = some value → ¬ use.2.value = none := by
    intro use isValue isNone
    rw [isNone] at isValue
    cases isValue
  simp only [Choices.written, List.mem_append] at member
  rcases member with ((((isIgnored | isTool) | isVersion) | isFolder) | isUnprinted) | isOutput
  · exact absurd (value_of_mem_flagIf isIgnored) (noFlag hasValue)
  · exact fromFlag hasValue (exists_chosen_of_mem_flagOf isTool)
  · exact fromFlag hasValue (exists_chosen_of_mem_flagOf isVersion)
  · exact fromFlag hasValue (exists_chosen_of_mem_flagOf isFolder)
  · exact absurd (value_of_mem_flagIf isUnprinted) (noFlag hasValue)
  · exact fromFlag hasValue (exists_chosen_of_mem_flagOf isOutput)

/-- **Chosen paths.**  What is asked of the paths among the choices is kept. -/
theorem checkValues_choices (surroundings : Surroundings) :
    (choices.reading.pathValues convertRules).forM
      (fun option => checkValue surroundings option.1 option.2) = .ok () := by
  rw [forM_eq_ok_iff]
  intro option member
  obtain ⟨rule, isUsed, isOption⟩ := List.mem_filterMap.1 member
  split at isOption
  · cases isOption
  · obtain ⟨value, isValue, rfl⟩ := Option.map_eq_some_iff.1 isOption
    obtain ⟨chosen, rfl⟩ := exists_chosen_of_value? choices isValue
    have isRule : rule ∈ convertRules := by
      obtain ⟨_, _, found⟩ := List.mem_filterMap.1 isUsed
      exact List.mem_of_find?_eq_some found
    have choosing := mem_of_uses_choices choices (Reading.uses_of_mem_usedRules isUsed)
    have noDirectory : ∀ rule ∈ convertRules, rule.name ∈ choosingOptions →
        rule.value ≠ .directory := by decide
    exact checkValue_of_chosen surroundings (noDirectory rule isRule choosing) chosen

end Flags

end Findings.Command
