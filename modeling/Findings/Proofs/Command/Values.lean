import Findings.Command.Run
import Findings.Proofs.Files.Paths

/-!
Contract: the values of options that name paths.

Owns: a value that is asked to be a path ends the program with a fault just when it is a text that
can be no path; otherwise it is accepted, or the command line is faulty.

Does not own: how a command line is read.
-/

set_option autoImplicit false

namespace Findings.Command

open Files (IsPathText)

/-- The value of an option has to be a path. -/
def ValueRule.AsksForPath (rule : ValueRule) : Prop := rule ≠ .none ∧ rule ≠ .text

/-- The last name of a path stays in it when the names before it are cancelled. -/
theorem mem_normalize_concat (root : Path.Root) (segments : List Text) {segment : Text}
    (name : segment ≠ Path.up) :
    segment ∈ (Path.normalize ⟨root, segments ++ [segment]⟩).segments := by
  have pushed : ∀ stack : List Text, Path.push root stack segment = segment :: stack := by
    intro stack
    unfold Path.push
    exact if_neg name
  show segment ∈ ((segments ++ [segment]).foldl (Path.push root) []).reverse
  rw [List.foldl_append, List.foldl_cons, List.foldl_nil, pushed]
  simp

/-- Every name of a path is looked at on the way. -/
theorem isPathText_of_resolutionSteps {path : Path}
    (fits : ∀ step ∈ resolutionSteps path, IsPathText step.toText) :
    ∀ segment ∈ path.segments, IsPathText segment := by
  intro segment member
  by_cases isUp : segment = Path.up
  · rw [isUp]
    decide
  · obtain ⟨count, bound, isSegment⟩ := List.getElem_of_mem member
    have isStep : Path.normalize
        ⟨if path.isAbsolute then .slash else .relative, path.segments.take (count + 1)⟩ ∈
          resolutionSteps path := by
      apply List.mem_map_of_mem
      rw [List.mem_filter, List.mem_range]
      refine ⟨bound, ?_⟩
      rw [List.getElem?_eq_getElem bound, isSegment]
      simpa using isUp
    have stepFits := fits _ isStep
    rw [Files.isPathText_toText_iff] at stepFits
    apply stepFits
    rw [List.take_succ_eq_append_getElem bound, isSegment]
    exact mem_normalize_concat _ _ isUp

theorem isPathText_resolutionSteps_iff (value : Text) :
    (∀ step ∈ resolutionSteps (Path.ofText value), IsPathText step.toText) ↔ IsPathText value := by
  rw [← Files.isPathText_ofText_iff, Files.isPathText_toText_iff]
  constructor
  · exact isPathText_of_resolutionSteps
  · intro fits step member
    obtain ⟨count, _, isStep⟩ := List.mem_map.1 member
    rw [← isStep]
    exact Files.isPathText_normalize fun segment inFront =>
      fits segment (List.mem_of_mem_take inFront)

/-! ## One check -/

/-- A check accepts a text that can be a path, and ends the program with a fault on any other. -/
def ChecksPath (checked : Except Halt Unit) (value : Text) : Prop :=
  (IsPathText value ∧ checked = .ok ()) ∨
    ¬ IsPathText value ∧ ∃ crash, checked = .error (.crash crash)

theorem checksPath_checkText (text : Text) :
    ChecksPath ((Files.checkText text).mapError fun failure => .crash (.unreadable failure))
      text := by
  unfold ChecksPath
  rw [← Files.checkText_eq_ok_iff]
  cases Files.checkText text with
  | ok => exact .inl ⟨rfl, rfl⟩
  | error failure => exact .inr ⟨by simp, _, rfl⟩

/-- The checks on the way along a value check the value. -/
theorem checksPath_resolutionSteps (value : Text) :
    ChecksPath ((resolutionSteps (Path.ofText value)).forM fun step =>
      (Files.checkText step.toText).mapError fun failure => .crash (.unreadable failure))
      value := by
  unfold ChecksPath
  rw [← isPathText_resolutionSteps_iff]
  cases checked : (resolutionSteps (Path.ofText value)).forM fun step =>
      (Files.checkText step.toText).mapError fun failure => Halt.crash (.unreadable failure) with
  | ok =>
      refine .inl ⟨fun step member => ?_, rfl⟩
      have stepChecked := forM_eq_ok_iff.1 checked step member
      rcases checksPath_checkText step.toText with ⟨fits, _⟩ | ⟨_, crash, failed⟩
      · exact fits
      · rw [stepChecked] at failed
        cases failed
  | error halt =>
      obtain ⟨step, member, stepFailed⟩ := exists_of_forM_eq_error checked
      rcases checksPath_checkText step.toText with ⟨_, accepted⟩ | ⟨unfit, crash, failed⟩
      · rw [stepFailed] at accepted
        cases accepted
      · rw [stepFailed] at failed
        cases failed
        exact .inr ⟨fun fits => unfit (fits step member), crash, rfl⟩

/-- **One value.**  If it is accepted it can be a path where it is asked to be one; if not, the
command line is faulty or the value can be no path. -/
theorem checkValue_cases (surroundings : Surroundings) (rule : ValueRule) (value : Text) :
    (checkValue surroundings rule value = .ok () ∧ (rule.AsksForPath → IsPathText value)) ∨
    (∃ error, checkValue surroundings rule value = .error (.usage error)) ∨
    (∃ crash, checkValue surroundings rule value = .error (.crash crash)) ∧
      rule.AsksForPath ∧ ¬ IsPathText value := by
  cases rule with
  | none => exact .inl ⟨rfl, fun asks => absurd rfl asks.1⟩
  | text => exact .inl ⟨rfl, fun asks => absurd rfl asks.2⟩
  | path =>
      rcases checksPath_checkText value with ⟨fits, accepted⟩ | ⟨unfit, failed⟩
      · exact .inl ⟨accepted, fun _ => fits⟩
      · exact .inr (.inr ⟨failed, by simp [ValueRule.AsksForPath], unfit⟩)
  | absolutePath =>
      rcases checksPath_resolutionSteps value with ⟨fits, accepted⟩ | ⟨unfit, failed⟩
      · exact .inl ⟨accepted, fun _ => fits⟩
      · exact .inr (.inr ⟨failed, by simp [ValueRule.AsksForPath], unfit⟩)
  | directory =>
      unfold checkValue
      dsimp only
      rcases checksPath_resolutionSteps value with ⟨fits, accepted⟩ | ⟨unfit, crash, failed⟩
      · rw [accepted, ok_bind]
        split
        · exact .inl ⟨rfl, fun _ => fits⟩
        · exact .inr (.inl ⟨_, rfl⟩)
      · rw [failed, error_bind]
        exact .inr (.inr ⟨⟨crash, rfl⟩, by simp [ValueRule.AsksForPath], unfit⟩)

/-! ## All values -/

/-- A value that an option names as a path can be none. -/
def Asked.NamesNoPath (asked : Asked) : Prop :=
  ∃ option ∈ asked.paths, option.1.AsksForPath ∧ ¬ IsPathText option.2

/-- **The values of a command line.**  A run gets past them when they can all be paths; otherwise the
command line is faulty or the run ends with a fault. -/
theorem Asked.run_cases (asked : Asked) (surroundings : Surroundings) :
    (¬ asked.NamesNoPath ∧ asked.run surroundings =
        match asked.request with
        | .error error => .usage error
        | .ok request => request.outcome surroundings) ∨
    (∃ error, asked.run surroundings = .usage error) ∨
    asked.NamesNoPath ∧ ∃ crash, asked.run surroundings = .crash crash := by
  unfold Asked.run Asked.NamesNoPath
  cases checked : asked.paths.forM fun option => checkValue surroundings option.1 option.2 with
  | ok =>
      refine .inl ⟨?_, rfl⟩
      rintro ⟨option, member, asksForPath, unfit⟩
      have accepted := forM_eq_ok_iff.1 checked option member
      rcases checkValue_cases surroundings option.1 option.2 with
        ⟨_, fits⟩ | ⟨error, faulty⟩ | ⟨⟨crash, crashed⟩, _⟩
      · exact unfit (fits asksForPath)
      · rw [accepted] at faulty
        cases faulty
      · rw [accepted] at crashed
        cases crashed
  | error halt =>
      obtain ⟨option, member, refused⟩ := exists_of_forM_eq_error checked
      rcases checkValue_cases surroundings option.1 option.2 with
        ⟨accepted, _⟩ | ⟨error, faulty⟩ | ⟨⟨crash, crashed⟩, asksForPath, unfit⟩
      · rw [refused] at accepted
        cases accepted
      · rw [refused] at faulty
        cases faulty
        exact .inr (.inl ⟨error, rfl⟩)
      · rw [refused] at crashed
        cases crashed
        exact .inr (.inr ⟨⟨option, member, asksForPath, unfit⟩, crash, rfl⟩)

end Findings.Command
