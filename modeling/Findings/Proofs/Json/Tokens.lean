import Findings.Proofs.Json.Strings
import Findings.Proofs.Text.Numerals

/-!
Contract: the tokens of written text.

Owns:
- `BeginsWith`, that a text begins with a token and another text follows;
- the tokens with which written strings, integers and words begin.

An integer ends where something stands that cannot continue a number (`EndsNumber`).
-/

set_option autoImplicit false

namespace Findings.Json

/-- A text begins with a token, and behind it stands the rest. -/
def BeginsWith (text : Text) (token : Token) (rest : Text) : Prop :=
  ∃ c more, text = c :: more ∧ isBlank c = false ∧ readToken c more = (token, rest)

/-- What stands here cannot continue a number. -/
def EndsNumber (rest : Text) : Prop :=
  ∀ next ∈ rest.head?, next.isDigit = false ∧ next ≠ CodePoint.ofChar '.' ∧
    next ≠ CodePoint.ofChar 'e' ∧ next ≠ CodePoint.ofChar 'E'

theorem endsNumber_cons {next : CodePoint} (noDigit : next.isDigit = false)
    (noPoint : next ≠ CodePoint.ofChar '.') (noSmall : next ≠ CodePoint.ofChar 'e')
    (noLarge : next ≠ CodePoint.ofChar 'E') (rest : Text) : EndsNumber (next :: rest) := by
  intro other isNext
  cases isNext
  exact ⟨noDigit, noPoint, noSmall, noLarge⟩

/-! ## Numbers -/

section Numbers

variable {rest : Text}

theorem wholePart?_ofNat (n : Nat) (ends : EndsNumber rest) :
    wholePart? (Text.ofNat n ++ rest) = some (Text.ofNat n, rest) := by
  obtain ⟨first, more, isNumeral, zeroOnly⟩ := Text.ofNat_eq_cons n
  have areDigits : ∀ c ∈ first :: more, c.isDigit = true := by
    rw [← isNumeral]
    exact fun c member => Text.isDigit_of_mem_ofNat member
  have moreDigits : ∀ c ∈ more, c.isDigit = true := fun c member =>
    areDigits c (List.mem_cons_of_mem _ member)
  rw [isNumeral, List.cons_append, wholePart?]
  by_cases isZero : first = CodePoint.ofChar '0'
  · rw [if_pos isZero, zeroOnly isZero]
    rfl
  · obtain ⟨isMore, isRest⟩ :=
      Text.takeWhile_dropWhile_append moreDigits fun next isNext => (ends next isNext).1
    rw [if_neg isZero, if_pos (areDigits first (List.mem_cons_self ..)), isMore, isRest]

theorem fractionPart?_eq_none (ends : EndsNumber rest) : fractionPart? rest = none := by
  unfold fractionPart?
  split
  · rename_i point digit after
    rw [if_neg fun fraction => (ends point rfl).2.1 fraction.1]
  · rfl

theorem exponentPart?_eq_none (ends : EndsNumber rest) : exponentPart? rest = none := by
  cases rest with
  | nil => rfl
  | cons letter rest =>
      obtain ⟨_, _, noSmall, noLarge⟩ := ends letter rfl
      have noLetter : ¬ (letter = CodePoint.ofChar 'e' ∨ letter = CodePoint.ofChar 'E') :=
        not_or.2 ⟨noSmall, noLarge⟩
      exact if_neg noLetter

/-- A numeral behind an optional sign is read as a number. -/
theorem readNumber?_of_sign {text : Text} {negative : Bool} {n : Nat}
    (sign : splitSign text = (negative, Text.ofNat n ++ rest))
    (short : (Text.ofNat n).length ≤ Numeral.maxDigits) (ends : EndsNumber rest) :
    readNumber? text = some (.literal (.int (if negative then -(n : Int) else n)), rest) := by
  unfold readNumber?
  simp only [sign, wholePart?_ofNat n ends, fractionPart?_eq_none ends, exponentPart?_eq_none ends]
  rw [integerToken, if_neg (by omega), Text.natValue_ofNat]

theorem splitSign_of_ne {c : CodePoint} (unsigned : c ≠ CodePoint.ofChar '-') (more : Text) :
    splitSign (c :: more) = (false, c :: more) := by
  rw [splitSign, if_neg unsigned]

/-! ## Words -/

theorem after?_eq_none_of_head {beginning more : Text} {first c : CodePoint}
    (isFirst : beginning.head? = some first) (different : first ≠ c) :
    Text.after? beginning (c :: more) = none := by
  cases beginning with
  | nil => cases isFirst
  | cons start beginning =>
      cases isFirst
      rw [Text.after?, if_neg different]

/-- No word begins with a digit. -/
theorem readWord?_of_isDigit {c : CodePoint} (digit : c.isDigit = true) (more : Text) :
    readWord? (c :: more) = none := by
  have heads : ∀ word ∈ words, word.1.head?.map CodePoint.isDigit = some false := by decide
  unfold readWord?
  rw [List.findSome?_eq_none_iff]
  intro word member
  obtain ⟨first, isFirst, noDigit⟩ := Option.map_eq_some_iff.1 (heads word member)
  rw [after?_eq_none_of_head isFirst (CodePoint.ne_of_isDigit digit noDigit).symm,
    Option.map_none]

/-- No word is a minus sign with a digit behind it. -/
theorem readWord?_of_minus {c : CodePoint} (digit : c.isDigit = true) (more : Text) :
    readWord? (CodePoint.ofChar '-' :: c :: more) = none := by
  have seconds : ∀ word ∈ words, word.1.tail.head?.map CodePoint.isDigit = some false := by decide
  unfold readWord?
  rw [List.findSome?_eq_none_iff]
  rintro ⟨beginning, value⟩ member
  obtain ⟨second, isSecond, noDigit⟩ := Option.map_eq_some_iff.1 (seconds _ member)
  cases beginning with
  | nil => cases isSecond
  | cons first beginning =>
      have differs : Text.after? beginning (c :: more) = none :=
        after?_eq_none_of_head isSecond (CodePoint.ne_of_isDigit digit noDigit).symm
      rw [Text.after?]
      split
      · rw [differs, Option.map_none]
      · rfl

end Numbers

/-! ## Tokens -/

theorem beginsWith_punctuation {c : CodePoint} {token : Token}
    (isToken : punctuation? c = some token) (visible : isBlank c = false) (rest : Text) :
    BeginsWith (c :: rest) token rest := by
  refine ⟨c, rest, rfl, visible, ?_⟩
  rw [readToken, isToken]

theorem beginsWith_renderText {text : Text} (joined : text.IsJoined) (rest : Text) :
    BeginsWith (renderText text ++ rest) (.text text) rest := by
  refine ⟨CodePoint.ofChar '"', text.flatMap escapedPoint ++ CodePoint.ofChar '"' :: rest, ?_,
    by decide, ?_⟩
  · simp [renderText]
  · have noPunctuation : punctuation? (CodePoint.ofChar '"') = none := by decide
    rw [readToken, noPunctuation]
    exact readString_escaped _ joined [] rest

/-- What begins neither a string nor a word is read as a number. -/
theorem readToken_number {c : CodePoint} {more rest : Text} {token : Token}
    (noPunctuation : punctuation? c = none) (noQuote : c ≠ CodePoint.ofChar '"')
    (noWord : readWord? (c :: more) = none)
    (number : readNumber? (c :: more) = some (token, rest)) : readToken c more = (token, rest) := by
  rw [readToken, noPunctuation]
  simp only
  rw [if_neg noQuote, noWord, number]
  rfl

theorem punctuation?_of_isDigit {c : CodePoint} (digit : c.isDigit = true) :
    punctuation? c = none := by
  have other : ∀ char : Char, (CodePoint.ofChar char).isDigit = false → c ≠ CodePoint.ofChar char :=
    fun _ noDigit => CodePoint.ne_of_isDigit digit noDigit
  unfold punctuation?
  rw [if_neg (other '[' (by decide)), if_neg (other ']' (by decide)),
    if_neg (other '\x7b' (by decide)), if_neg (other '\x7d' (by decide)),
    if_neg (other ':' (by decide)), if_neg (other ',' (by decide))]

theorem isBlank_of_isDigit {c : CodePoint} (digit : c.isDigit = true) : isBlank c = false := by
  have range := CodePoint.within_eq_true_iff.1 digit
  simp only [isBlank, Bool.or_eq_false_iff, decide_eq_false_iff_not]
  omega

theorem endsNumber_of_isBlank {c : CodePoint} (blank : isBlank c = true) (rest : Text) :
    EndsNumber (c :: rest) := by
  have differs : ∀ other, isBlank other = false → c ≠ other := by
    intro other visible same
    rw [same, visible] at blank
    cases blank
  have noDigit : c.isDigit = false := by
    cases digit : c.isDigit with
    | false => rfl
    | true => exact absurd rfl (differs c (isBlank_of_isDigit digit))
  exact endsNumber_cons noDigit (differs _ (by decide)) (differs _ (by decide))
    (differs _ (by decide)) rest

/-- A written integer is read as the number, if it is not too long and nothing continues it. -/
theorem beginsWith_ofInt {value : Int} {rest : Text}
    (short : (Text.ofNat value.natAbs).length ≤ Numeral.maxDigits) (ends : EndsNumber rest) :
    BeginsWith (Text.ofInt value ++ rest) (.literal (.int value)) rest := by
  obtain ⟨first, more, isNumeral, _⟩ := Text.ofNat_eq_cons value.natAbs
  have digit : first.isDigit = true :=
    Text.isDigit_of_mem_ofNat (n := value.natAbs) (by rw [isNumeral]; exact List.mem_cons_self ..)
  cases value with
  | ofNat n =>
      have unsigned : first ≠ CodePoint.ofChar '-' := CodePoint.ne_of_isDigit digit (by decide)
      have sign : splitSign (first :: (more ++ rest)) = (false, Text.ofNat n ++ rest) := by
        rw [splitSign_of_ne unsigned, ← List.cons_append, ← isNumeral]
        rfl
      refine ⟨first, more ++ rest, ?_, isBlank_of_isDigit digit, ?_⟩
      · rw [← List.cons_append, ← isNumeral]
        rfl
      · exact readToken_number (punctuation?_of_isDigit digit)
          (CodePoint.ne_of_isDigit digit (by decide)) (readWord?_of_isDigit digit _)
          (readNumber?_of_sign sign short ends)
  | negSucc n =>
      have sign : splitSign (CodePoint.ofChar '-' :: first :: (more ++ rest)) =
          (true, Text.ofNat (n + 1) ++ rest) := by
        rw [splitSign, if_pos rfl, ← List.cons_append, ← isNumeral]
        rfl
      refine ⟨CodePoint.ofChar '-', first :: (more ++ rest), ?_, by decide, ?_⟩
      · rw [← List.cons_append, ← isNumeral]
        rfl
      · exact readToken_number (by decide) (by decide) (readWord?_of_minus digit _)
          (readNumber?_of_sign sign short ends)

/-- A word is read as the value that it denotes. -/
theorem beginsWith_word {c : CodePoint} {more : Text} {value : Json} {rest : Text}
    (noPunctuation : punctuation? c = none) (noQuote : c ≠ CodePoint.ofChar '"')
    (visible : isBlank c = false)
    (word : readWord? (c :: more) = some (.literal value, rest)) :
    BeginsWith (c :: more) (.literal value) rest := by
  refine ⟨c, more, rfl, visible, ?_⟩
  rw [readToken, noPunctuation]
  simp only
  rw [if_neg noQuote, word]

end Findings.Json
