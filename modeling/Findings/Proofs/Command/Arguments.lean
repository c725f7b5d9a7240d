import Findings.Command.Arguments
import Findings.Proofs.Except

/-!
Contract: arguments behind other arguments.

Owns:
- an option that stands alone in front of a command line changes nothing in how the rest is read
  (`ofArguments_cons_of_use`), and neither do several (`ofArguments_append_of_uses`);
- what is found of an option in arguments behind others;
- the first operand can be any text that is taken for an operand, and all else is read the same
  (`exists_ofArguments_eq`).

Reading only ever adds to the uses of options and to the operands that it holds, and looks at none of
them.  So every step of it goes on in the same way behind those that were there before.
-/

set_option autoImplicit false

namespace Findings.Command

namespace Reading

/-- What is read behind another reading. -/
def behind (front reading : Reading) : Reading where
  occurrences := front.occurrences ++ reading.occurrences
  operands := front.operands ++ reading.operands
  mode := reading.mode

section Steps

variable (rules : List OptionRule) (front reading : Reading)

theorem use_behind (rule : OptionRule) :
    (front.behind reading).use rule = front.behind (reading.use rule) := by
  unfold use
  split
  · rfl
  · simp [behind]

theorem useWith_behind (name value : Text) :
    (front.behind reading).useWith name value = front.behind (reading.useWith name value) := by
  simp [useWith, behind]

theorem readLetters_behind (letters : Text) :
    readLetters rules (front.behind reading) letters =
      (readLetters rules reading letters).map front.behind := by
  induction letters generalizing reading with
  | nil => rfl
  | cons letter rest inductionHypothesis =>
      unfold readLetters
      cases rules.find? fun rule => rule.letter = some letter with
      | none => rfl
      | some rule =>
          dsimp only
          split
          · exact congrArg Except.ok (useWith_behind front reading rule.name rest)
          · rw [use_behind]
            exact inductionHypothesis (reading.use rule)

theorem readOption_behind (argument : Text) :
    readOption rules (front.behind reading) argument =
      (readOption rules reading argument).map front.behind := by
  unfold readOption
  dsimp only
  cases rules.find? fun rule =>
      Text.ofString "--" ++ rule.name = (splitEquals argument).1 with
  | none =>
      dsimp only
      split
      · rfl
      · exact readLetters_behind rules front reading _
  | some rule =>
      dsimp only
      cases (splitEquals argument).2 with
      | none => exact congrArg Except.ok (use_behind front reading rule)
      | some value =>
          dsimp only
          split
          · exact congrArg Except.ok (useWith_behind front reading rule.name value)
          · rfl

/-- One argument is read the same behind another reading. -/
theorem step_behind (optionsFollow : Bool) (argument : Text) :
    step rules optionsFollow (front.behind reading) argument =
      (step rules optionsFollow reading argument).map front.behind := by
  have sameMode : (front.behind reading).mode = reading.mode := rfl
  unfold step
  rw [sameMode]
  cases reading.mode with
  | valueOf name => exact congrArg Except.ok (useWith_behind front reading name argument)
  | operand => simp [behind]
  | anything =>
      dsimp only
      split
      · rfl
      · split
        · exact readOption_behind rules front reading argument
        · simp [behind]

/-- Arguments are read the same behind another reading. -/
theorem foldlM_behind (optionsFollow : Bool) (arguments : List Text) :
    arguments.foldlM (step rules optionsFollow) (front.behind reading) =
      (arguments.foldlM (step rules optionsFollow) reading).map front.behind :=
  foldlM_map_state (step_behind rules front · optionsFollow ·) arguments reading

end Steps

/-- A reading at the end of the arguments: none ends with an option whose value is missing. -/
def complete (reading : Reading) : Except UsageError Reading :=
  match reading.mode with
  | .valueOf name => .error (.missingValue name)
  | _ => .ok reading

theorem ofArguments_eq (rules : List OptionRule) (optionsFollow : Bool) (arguments : List Text) :
    ofArguments rules optionsFollow arguments =
      arguments.foldlM (step rules optionsFollow) {} >>= complete := rfl

theorem complete_behind (front reading : Reading) :
    (front.behind reading).complete = reading.complete.map front.behind := by
  have sameMode : (front.behind reading).mode = reading.mode := rfl
  unfold complete
  rw [sameMode]
  cases reading.mode <;> rfl

/-- Arguments are read behind a reading, up to their end. -/
theorem foldlM_behind_complete (rules : List OptionRule) (optionsFollow : Bool)
    (front reading : Reading) (arguments : List Text) :
    arguments.foldlM (step rules optionsFollow) (front.behind reading) >>= complete =
      (arguments.foldlM (step rules optionsFollow) reading >>= complete).map front.behind := by
  rw [foldlM_behind]
  cases arguments.foldlM (step rules optionsFollow) reading with
  | error error => rfl
  | ok last => exact complete_behind front last

section Lines

variable {rules : List OptionRule} {optionsFollow : Bool}

/-- **An option in front.**  An option without a value, and then other arguments, are read as the use
of the option and what the others are read as. -/
theorem ofArguments_cons_of_use {flag : Text} {used : Reading}
    (isUse : step rules optionsFollow {} flag = .ok (used.behind {}))
    (arguments : List Text) :
    ofArguments rules optionsFollow (flag :: arguments) =
      (ofArguments rules optionsFollow arguments).map used.behind := by
  rw [ofArguments_eq, ofArguments_eq, List.foldlM_cons, isUse, ok_bind, foldlM_behind_complete]

theorem uses_behind (front reading : Reading) (name : Text) :
    (front.behind reading).uses name = (front.uses name || reading.uses name) :=
  List.any_append

theorem behind_behind (first second third : Reading) :
    (first.behind second).behind third = first.behind (second.behind third) := by
  simp [behind]

/-- **Options in front.**  Arguments that are each read as one use of an option, and then other
arguments, are read as these uses and what the others are read as. -/
theorem ofArguments_append_of_uses {written : List (Text × Occurrence)}
    (areUses : ∀ use ∈ written, step rules optionsFollow {} use.1 =
      .ok (behind { occurrences := [use.2] } {}))
    (arguments : List Text) :
    ofArguments rules optionsFollow (written.map Prod.fst ++ arguments) =
      (ofArguments rules optionsFollow arguments).map
        (behind { occurrences := written.map Prod.snd }) := by
  induction written with
  | nil =>
      have same : ∀ reading : Reading, behind { occurrences := [] } reading = reading := fun _ => rfl
      rw [List.map_nil, List.map_nil, List.nil_append]
      cases ofArguments rules optionsFollow arguments with
      | error error => rfl
      | ok reading => exact congrArg Except.ok (same reading).symm
  | cons use written inductionHypothesis =>
      obtain ⟨isUse, areUsesBehind⟩ := List.forall_mem_cons.1 areUses
      rw [List.map_cons, List.cons_append, ofArguments_cons_of_use isUse,
        inductionHypothesis areUsesBehind]
      cases ofArguments rules optionsFollow arguments with
      | error error => rfl
      | ok reading => exact congrArg Except.ok (behind_behind _ _ reading).symm

/-! ## What is found of an option -/

section Options

variable {front reading : Reading} {name : Text}

theorem uses_eq_false_iff :
    reading.uses name = false ↔ ∀ occurrence ∈ reading.occurrences, occurrence.name ≠ name := by
  unfold uses
  simp

theorem find?_of_unused (unused : reading.uses name = false) :
    reading.occurrences.reverse.find? (fun occurrence => occurrence.name = name) = none := by
  rw [List.find?_eq_none]
  intro occurrence member isName
  exact uses_eq_false_iff.1 unused occurrence (List.mem_reverse.1 member) (of_decide_eq_true isName)

theorem value?_of_unused (unused : reading.uses name = false) : reading.value? name = none := by
  unfold value?
  rw [find?_of_unused unused]
  rfl

/-- An option that is not used in front has the value that it has behind. -/
theorem value?_behind_of_unused_front (unused : front.uses name = false) :
    (front.behind reading).value? name = reading.value? name := by
  unfold value? behind
  dsimp only
  rw [List.reverse_append, List.find?_append, find?_of_unused unused, Option.or_none]

/-- An option that is not used behind has the value that it has in front. -/
theorem value?_behind_of_unused (unused : reading.uses name = false) :
    (front.behind reading).value? name = front.value? name := by
  unfold value? behind
  dsimp only
  rw [List.reverse_append, List.find?_append, find?_of_unused unused, Option.none_or]

theorem uses_eq_true_iff :
    reading.uses name = true ↔ name ∈ reading.occurrences.map (·.name) := by
  unfold uses
  simp

/-- The rules of used options are named like them. -/
theorem uses_of_mem_usedRules {rule : OptionRule} (member : rule ∈ reading.usedRules rules) :
    reading.uses rule.name = true := by
  obtain ⟨used, isUsed, found⟩ := List.mem_filterMap.1 member
  have isName : rule.name = used := of_decide_eq_true (List.find?_some found :)
  rw [isName, uses_eq_true_iff]
  exact List.mem_eraseDups.1 isUsed

theorem usedRules_behind
    (disjoint : ∀ name, front.uses name = true → reading.uses name = false) :
    (front.behind reading).usedRules rules = front.usedRules rules ++ reading.usedRules rules := by
  have fresh : (reading.occurrences.map (·.name)).removeAll (front.occurrences.map (·.name)) =
      reading.occurrences.map (·.name) := by
    unfold List.removeAll
    rw [List.filter_eq_self]
    intro used isUsed
    rw [Bool.not_eq_true', Bool.eq_false_iff]
    intro inFront
    replace inFront := List.elem_iff.1 inFront
    rw [← uses_eq_true_iff] at isUsed inFront
    rw [disjoint used inFront] at isUsed
    cases isUsed
  unfold usedRules behind
  dsimp only
  rw [List.map_append, List.eraseDups_append, fresh, List.filterMap_append]

/-- Where no option is used twice, the paths that options name are those in front and those behind. -/
theorem pathValues_behind
    (disjoint : ∀ name, front.uses name = true → reading.uses name = false) :
    (front.behind reading).pathValues rules =
      front.pathValues rules ++ reading.pathValues rules := by
  unfold pathValues
  rw [usedRules_behind disjoint, List.filterMap_append]
  congr 1
  · refine List.filterMap_congr fun rule member => ?_
    rw [value?_behind_of_unused (disjoint _ (uses_of_mem_usedRules member))]
  · refine List.filterMap_congr fun rule member => ?_
    have unused : front.uses rule.name = false := by
      cases inFront : front.uses rule.name with
      | false => rfl
      | true =>
          have used := uses_of_mem_usedRules member
          rw [disjoint _ inFront] at used
          cases used
    rw [value?_behind_of_unused_front unused]

end Options

/-! ## The first operand -/

/-- The next argument is taken for an operand. -/
def Takes (reading : Reading) (argument : Text) : Prop :=
  reading.mode = .operand ∨
    reading.mode = .anything ∧ ¬ (Text.startsWith argument "-" ∧ 1 < argument.length)

/-- Behind the arguments in front an argument is taken for an operand, and for the first one. -/
def IsFirstOperand (rules : List OptionRule) (optionsFollow : Bool) (front : List Text)
    (argument : Text) : Prop :=
  ∀ reading, front.foldlM (step rules optionsFollow) {} = .ok reading →
    reading.operands = [] ∧ reading.Takes argument

/-- Whether options can follow depends on what is in front of an operand, not on the operand. -/
def modeBehind (optionsFollow : Bool) : Mode → Mode
  | .anything => if optionsFollow then .anything else .operand
  | mode => mode

theorem step_of_takes {reading : Reading} {argument : Text} (takes : reading.Takes argument) :
    step rules optionsFollow reading argument = .ok { reading with
      operands := reading.operands ++ [argument]
      mode := modeBehind optionsFollow reading.mode } := by
  unfold step modeBehind
  rcases takes with isOperand | ⟨isAnything, noOption⟩
  · rw [isOperand]
  · have noEnd : argument ≠ Text.ofString "--" := by
      rintro rfl
      exact noOption (by decide)
    rw [isAnything]
    dsimp only
    rw [if_neg noEnd, if_neg noOption]

/-- A reading with an operand in front of its own. -/
def withFirst (operand : Text) (reading : Reading) : Reading :=
  { reading with operands := operand :: reading.operands }

/-- **The first operand.**  What is read of a command line around its first operand does not depend on
the operand. -/
theorem exists_ofArguments_eq (rules : List OptionRule) (optionsFollow : Bool)
    (front back : List Text) :
    ∃ around : Except UsageError Reading, ∀ operand, IsFirstOperand rules optionsFollow front operand →
      ofArguments rules optionsFollow (front ++ operand :: back) =
        around.map (withFirst operand) := by
  simp only [ofArguments_eq, List.foldlM_append, List.foldlM_cons]
  cases isFront : front.foldlM (step rules optionsFollow) {} with
  | error error => exact ⟨.error error, fun operand _ => rfl⟩
  | ok reading =>
      refine ⟨(back.foldlM (step rules optionsFollow)
          { mode := modeBehind optionsFollow reading.mode } >>= complete).map reading.behind,
        fun operand isFirst => ?_⟩
      obtain ⟨noOperands, takes⟩ := isFirst reading isFront
      have isBehind : ({ reading with
            operands := reading.operands ++ [operand]
            mode := modeBehind optionsFollow reading.mode } : Reading) =
          behind { reading with operands := [operand] }
            { mode := modeBehind optionsFollow reading.mode } := by
        simp [behind, noOperands]
      rw [ok_bind, step_of_takes takes, ok_bind, isBehind, foldlM_behind_complete]
      cases back.foldlM (step rules optionsFollow)
          { mode := modeBehind optionsFollow reading.mode } >>= complete with
      | error error => rfl
      | ok last => simp [behind, withFirst, noOperands]

/-- What an option can be mistaken for is no hyphen alone. -/
theorem IsFirstOperand.hyphen {front : List Text} {operand : Text}
    (isFirst : IsFirstOperand rules optionsFollow front operand) :
    IsFirstOperand rules optionsFollow front "-" := by
  intro reading isFront
  obtain ⟨noOperands, takes⟩ := isFirst reading isFront
  exact ⟨noOperands, takes.imp_right fun anything => ⟨anything.1, by decide⟩⟩

/-- All arguments behind an operand that ends the options are operands. -/
theorem foldlM_of_operand {reading : Reading} (isOperand : reading.mode = .operand)
    (arguments : List Text) :
    arguments.foldlM (step rules optionsFollow) reading =
      .ok { reading with operands := reading.operands ++ arguments } := by
  induction arguments generalizing reading with
  | nil => simp [pure, Except.pure]
  | cons argument arguments inductionHypothesis =>
      rw [List.foldlM_cons, step_of_takes (.inl isOperand), ok_bind, isOperand]
      exact (inductionHypothesis rfl).trans (by simp [modeBehind])

/-- Where options cannot follow an operand, everything from the first operand on is an operand. -/
theorem ofArguments_of_last {front : List Text} {operand : Text}
    (isFirst : IsFirstOperand rules false front operand) (back : List Text) :
    ofArguments rules false (front ++ operand :: back) =
      (front.foldlM (step rules false) {}).map fun reading =>
        { reading with operands := operand :: back, mode := .operand } := by
  rw [ofArguments_eq, List.foldlM_append]
  cases isFront : front.foldlM (step rules false) {} with
  | error error => rfl
  | ok reading =>
      obtain ⟨noOperands, takes⟩ := isFirst reading isFront
      have ends : modeBehind false reading.mode = .operand := by
        rcases takes with isOperand | ⟨isAnything, _⟩
        · rw [isOperand]
          rfl
        · rw [isAnything]
          rfl
      rw [ok_bind, List.foldlM_cons, step_of_takes takes, ok_bind, ends, foldlM_of_operand rfl]
      simp [complete, noOperands]

end Lines

end Reading

end Findings.Command
