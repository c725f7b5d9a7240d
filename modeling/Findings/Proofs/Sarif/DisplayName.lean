import Findings.Proofs.Path.Segments
import Findings.Sarif.RuleName
import Mathlib.Data.List.Infix
import Mathlib.Data.List.TakeWhile

/-!
Contract: which letters the readable name of a rule shows, and which of them are capitals.

Owns:
- letters in two sizes, which are the same letter;
- `IsWord`, a maximal run of letters and digits within a text, and `BeginsWord`;
- the readable name shows the letters and digits of a rule id one by one, and a letter is a capital
  just at the beginning of a word (`displayName_shows_letters`).
-/

set_option autoImplicit false

namespace Findings

/-! ## Sizes of letters -/

namespace CodePoint

/-- The letters of ASCII. -/
def isAsciiLetter (c : CodePoint) : Bool := c.isUpper || c.isLower

theorem eq_of_val_eq {c d : CodePoint} (same : c.val = d.val) : c = d := by
  cases c
  cases d
  cases same
  rfl

theorem toUpper_val (c : CodePoint) :
    c.toUpper.val = if 0x61 ≤ c.val ∧ c.val ≤ 0x7A then c.val - 0x20 else c.val := by
  unfold toUpper isLower
  simp only [within_eq_true_iff]
  split <;> rfl

theorem toLower_val (c : CodePoint) :
    c.toLower.val = if 0x41 ≤ c.val ∧ c.val ≤ 0x5A then c.val + 0x20 else c.val := by
  unfold toLower isUpper
  simp only [within_eq_true_iff]
  split <;> rfl

theorem isAsciiLetter_eq_true_iff {c : CodePoint} :
    c.isAsciiLetter = true ↔ (0x41 ≤ c.val ∧ c.val ≤ 0x5A) ∨ (0x61 ≤ c.val ∧ c.val ≤ 0x7A) := by
  unfold isAsciiLetter isUpper isLower
  rw [Bool.or_eq_true, within_eq_true_iff, within_eq_true_iff]

/-- Making a letter large does not change which letter it is, nor does making it small. -/
theorem toLower_toUpper (c : CodePoint) : c.toUpper.toLower = c.toLower := by
  apply eq_of_val_eq
  rw [toLower_val, toLower_val, toUpper_val]
  grind

theorem toLower_toLower (c : CodePoint) : c.toLower.toLower = c.toLower := by
  apply eq_of_val_eq
  rw [toLower_val, toLower_val]
  grind

theorem isUpper_toUpper {c : CodePoint} (letter : c.isAsciiLetter = true) :
    c.toUpper.isUpper = true ∧ c.toUpper.isLower = false := by
  have range := isAsciiLetter_eq_true_iff.1 letter
  have value := toUpper_val c
  unfold isUpper isLower
  rw [within_eq_true_iff, within_eq_false_iff]
  grind

theorem isLower_toLower {c : CodePoint} (letter : c.isAsciiLetter = true) :
    c.toLower.isLower = true ∧ c.toLower.isUpper = false := by
  have range := isAsciiLetter_eq_true_iff.1 letter
  have value := toLower_val c
  unfold isUpper isLower
  rw [within_eq_true_iff, within_eq_false_iff]
  grind

end CodePoint

namespace Sarif

/-! ## Words -/

/-- A word between two texts: a run of letters and digits that goes on neither to the left nor to the
right. -/
structure IsWord (before word after : Text) : Prop where
  nonempty : word ≠ []
  inside : ∀ c ∈ word, c.isAlphanumeric = true
  endsBefore : ∀ c ∈ before.getLast?, c.isAlphanumeric = false
  endsAfter : ∀ c ∈ after.head?, c.isAlphanumeric = false

/-- A word of a text begins behind some beginning of it. -/
def BeginsWord (text before : Text) : Prop :=
  ∃ word after, text = before ++ word ++ after ∧ IsWord before word after

/-- A letter or digit is the first of a word unless one stands in front of it. -/
theorem beginsWord_iff {before rest : Text} {c : CodePoint} (counts : c.isAlphanumeric = true) :
    BeginsWord (before ++ c :: rest) before ↔
      ∀ last ∈ before.getLast?, last.isAlphanumeric = false := by
  constructor
  · rintro ⟨_, _, _, isWord⟩
    exact isWord.endsBefore
  · intro ends
    refine ⟨c :: rest.takeWhile CodePoint.isAlphanumeric,
      rest.dropWhile CodePoint.isAlphanumeric, ?_, ?_⟩
    · rw [List.append_assoc, List.cons_append, List.takeWhile_append_dropWhile]
    · refine ⟨List.cons_ne_nil _ _, ?_, ends, ?_⟩
      · rintro d (_ | ⟨_, inRun⟩)
        · exact counts
        · exact List.mem_takeWhile_imp inRun
      · intro d isHead
        have stops := List.head?_dropWhile_not CodePoint.isAlphanumeric rest
        rw [Option.mem_def.1 isHead] at stops
        simpa using stops

/-! ## Showing letter by letter -/

/-- The letters and digits of a text as a name shows them, where a word may have begun in front. -/
def shownBehind (insideWord : Bool) : Text → Text
  | [] => []
  | c :: rest =>
      if c.isAlphanumeric then
        (if insideWord then c.toLower else c.toUpper) :: shownBehind true rest
      else shownBehind false rest

theorem displayName_eq_flatMap (ruleId : Text) :
    displayName ruleId =
      (Text.splitOn (CodePoint.ofChar ' ') (blankSeparators ruleId)).flatMap capitalized := by
  have dropsEmpty : ∀ words : List Text,
      (words.filter fun word => !word.isEmpty).flatMap capitalized = words.flatMap capitalized := by
    intro words
    induction words with
    | nil => rfl
    | cons word words inductionHypothesis =>
        cases word with
        | nil => exact inductionHypothesis
        | cons c word =>
            rw [List.filter_cons_of_pos rfl, List.flatMap_cons, List.flatMap_cons,
              inductionHypothesis]
  exact dropsEmpty _

/-- The first part of a text goes on with a word that has begun, or begins one. -/
theorem exists_splitOn_shownBehind (text : Text) :
    ∃ first others,
      Text.splitOn (CodePoint.ofChar ' ') (blankSeparators text) = first :: others ∧
      shownBehind true text = first.map CodePoint.toLower ++ others.flatMap capitalized ∧
      shownBehind false text = capitalized first ++ others.flatMap capitalized := by
  induction text with
  | nil => exact ⟨[], [], rfl, rfl, rfl⟩
  | cons c text inductionHypothesis =>
      obtain ⟨first, others, isSplit, goesOn, begins⟩ := inductionHypothesis
      have unfolded : blankSeparators (c :: text) =
          (if c.isAlphanumeric then c else CodePoint.ofChar ' ') :: blankSeparators text := rfl
      rw [unfolded, Text.splitOn_cons, isSplit, shownBehind, shownBehind]
      cases counts : c.isAlphanumeric with
      | true =>
          have noBlank : c ≠ CodePoint.ofChar ' ' := by
            rintro rfl
            cases counts
          simp only [if_true, if_neg noBlank, goesOn]
          exact ⟨_, _, rfl, rfl, rfl⟩
      | false =>
          simp only [Bool.false_eq_true, if_false, if_true, begins]
          exact ⟨_, _, rfl, rfl, rfl⟩

theorem displayName_eq_shownBehind (ruleId : Text) :
    displayName ruleId = shownBehind false ruleId := by
  obtain ⟨first, others, isSplit, _, begins⟩ := exists_splitOn_shownBehind ruleId
  rw [displayName_eq_flatMap, isSplit, begins]
  rfl

/-- What separates words ends the word in front of it. -/
theorem shownBehind_append_cons {c : CodePoint} (separates : c.isAlphanumeric = false)
    (insideWord : Bool) (front rest : Text) :
    shownBehind insideWord (front ++ c :: rest) =
      shownBehind insideWord front ++ shownBehind false rest := by
  induction front generalizing insideWord with
  | nil =>
      show shownBehind insideWord (c :: rest) = shownBehind false rest
      rw [shownBehind, separates, if_neg Bool.false_ne_true]
  | cons d front inductionHypothesis =>
      rw [List.cons_append, shownBehind, shownBehind]
      split
      · rw [inductionHypothesis, List.cons_append]
      · exact inductionHypothesis false

theorem shownBehind_eq_nil_iff {insideWord : Bool} {text : Text} :
    shownBehind insideWord text = [] ↔ ∀ c ∈ text, c.isAlphanumeric = false := by
  induction text generalizing insideWord with
  | nil => simp [shownBehind]
  | cons c text inductionHypothesis =>
      rw [shownBehind, List.forall_mem_cons]
      cases c.isAlphanumeric <;> simp [inductionHypothesis]

/-! ## Letters in their places -/

/-- The letters and digits of a text in their order, each with what stands in front of it. -/
def lettersOf (text : Text) : List (Text × CodePoint) :=
  (text.inits.zip text).filter fun place => place.2.isAlphanumeric

/-- How a name shows a letter or digit of a text: as the same letter or digit, and a letter as a
capital just at the beginning of a word. -/
structure IsShownAs (text : Text) (place : Text × CodePoint) (shown : CodePoint) : Prop where
  same : shown.toLower = place.2.toLower
  capital_iff : place.2.isAsciiLetter = true → (shown.isUpper = true ↔ BeginsWord text place.1)
  small_iff : place.2.isAsciiLetter = true → (shown.isLower = true ↔ ¬ BeginsWord text place.1)

theorem isShownAs_of_beginsWord {text before : Text} {c : CodePoint}
    (begins : BeginsWord text before) : IsShownAs text (before, c) c.toUpper where
  same := c.toLower_toUpper
  capital_iff letter := iff_of_true (CodePoint.isUpper_toUpper letter).1 begins
  small_iff letter := by
    rw [(CodePoint.isUpper_toUpper letter).2]
    exact iff_of_false Bool.false_ne_true (not_not_intro begins)

theorem isShownAs_of_not_beginsWord {text before : Text} {c : CodePoint}
    (goesOn : ¬ BeginsWord text before) : IsShownAs text (before, c) c.toLower where
  same := c.toLower_toLower
  capital_iff letter := by
    rw [(CodePoint.isLower_toLower letter).2]
    exact iff_of_false Bool.false_ne_true goesOn
  small_iff letter := iff_of_true (CodePoint.isLower_toLower letter).1 goesOn

/-- Whether a text ends inside a word. -/
def endsInside (before : Text) : Bool := before.getLast?.any CodePoint.isAlphanumeric

theorem endsInside_concat (before : Text) (c : CodePoint) :
    endsInside (before ++ [c]) = c.isAlphanumeric := by
  unfold endsInside
  rw [List.getLast?_concat]
  rfl

theorem beginsWord_iff_endsInside {before rest : Text} {c : CodePoint}
    (counts : c.isAlphanumeric = true) :
    BeginsWord (before ++ c :: rest) before ↔ endsInside before = false := by
  rw [beginsWord_iff counts]
  unfold endsInside
  cases before.getLast? <;> simp

theorem forall₂_shownBehind (before text : Text) :
    List.Forall₂ (IsShownAs (before ++ text))
      (((text.inits.map (before ++ ·)).zip text).filter fun place => place.2.isAlphanumeric)
      (shownBehind (endsInside before) text) := by
  induction text generalizing before with
  | nil => exact .nil
  | cons c text inductionHypothesis =>
      have behind := inductionHypothesis (before ++ [c])
      rw [List.append_assoc, List.singleton_append, endsInside_concat] at behind
      have places : (List.inits (c :: text)).map (before ++ ·) =
          before :: text.inits.map ((before ++ [c]) ++ ·) := by
        simp
      rw [places, List.zip_cons_cons, List.filter_cons, shownBehind]
      cases counts : c.isAlphanumeric with
      | false =>
          rw [counts] at behind
          exact behind
      | true =>
          rw [counts] at behind
          refine .cons ?_ behind
          cases inside : endsInside before with
          | true =>
              apply isShownAs_of_not_beginsWord
              rw [beginsWord_iff_endsInside counts, inside]
              exact Bool.noConfusion
          | false =>
              exact isShownAs_of_beginsWord ((beginsWord_iff_endsInside counts).2 inside)

/-! ## Names -/

/-- **The readable name of a rule.**  It shows the letters and digits of the rule id in their order,
each one once and nothing else, with capitals just at the beginnings of words.  So any other character
splits a name into the names of what stands on its two sides, and a name is empty just if there is
neither letter nor digit. -/
theorem displayName_shows_letters (ruleId : Text) :
    List.Forall₂ (IsShownAs ruleId) (lettersOf ruleId) (displayName ruleId) ∧
      (∀ front c rest, ruleId = front ++ c :: rest → c.isAlphanumeric = false →
        displayName ruleId = displayName front ++ displayName rest) ∧
      (displayName ruleId = [] ↔ ∀ c ∈ ruleId, c.isAlphanumeric = false) := by
  simp only [displayName_eq_shownBehind]
  refine ⟨?_, ?_, shownBehind_eq_nil_iff⟩
  · have shown := forall₂_shownBehind [] ruleId
    simp only [List.nil_append, List.map_id'] at shown
    exact shown
  · rintro front c rest rfl separates
    exact shownBehind_append_cons separates false front rest

/-- A scope and a rule with a digit in it. -/
theorem displayName_shows_letters_sample :
    (CodePoint.ofChar '/').isAlphanumeric = false ∧
      displayName "@vue3/no-Undef 2x" = displayName "@vue3" ++ displayName "no-Undef 2x" :=
  ⟨by decide, (displayName_shows_letters _).2.1 "@vue3" '/' "no-Undef 2x" rfl (by decide)⟩

example : displayName "@vue3/no-Undef 2x" = Text.ofString "Vue3NoUndef2x" := by decide

end Sarif

end Findings
