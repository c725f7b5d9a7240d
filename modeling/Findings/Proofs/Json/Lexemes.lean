import Findings.Proofs.Json.Grammar
import Findings.Proofs.Json.Source
import Findings.Proofs.Json.Tokens
import Mathlib.Data.List.TakeWhile

/-!
Contract: the tokens of the reader are the lexemes of the grammar.

Owns:
- blanks, words, numbers and the insides of strings, each in both directions: what is read is
  spelled in the text, and what is spelled is read if nothing continues it;
- `Lexeme`, what a token that is not faulty says about the text in front of the rest.
-/

set_option autoImplicit false

namespace Findings.Json

/-! ## Blanks -/

theorem isBlank_iff {c : CodePoint} :
    isBlank c = true ↔ ∃ blank ∈ blankCharacters, c = CodePoint.ofChar blank := by
  have val_eq : ∀ blank : Char, c.val = (CodePoint.ofChar blank).val ↔
      c = CodePoint.ofChar blank := fun blank =>
    ⟨fun same => by cases c; exact (CodePoint.mk.injEq ..).mpr same, fun same => by rw [same]⟩
  have space := val_eq ' '
  have tab := val_eq '\t'
  have lineFeed := val_eq '\n'
  have carriageReturn := val_eq '\r'
  simp only [blankCharacters, List.mem_cons, List.not_mem_nil, or_false, exists_eq_or_imp,
    exists_eq_left, ← space, ← tab, ← lineFeed, ← carriageReturn]
  simp only [isBlank, Bool.or_eq_true, decide_eq_true_eq, or_assoc]
  exact Iff.rfl

theorem Blanks.refl (text : Text) : Blanks text text := ⟨[], by simp, rfl⟩

theorem blanks_cons {c : CodePoint} (blank : isBlank c = true) {text rest : Text}
    (behind : Blanks text rest) : Blanks (c :: text) rest := by
  obtain ⟨isListed, listed, rfl⟩ := isBlank_iff.1 blank
  obtain ⟨blanks, areBlank, rfl⟩ := behind
  exact ⟨isListed :: blanks, List.forall_mem_cons.2 ⟨listed, areBlank⟩, rfl⟩

/-- What is skipped in front of a token are blanks. -/
theorem blanks_dropWhile (text : Text) : Blanks text (text.dropWhile isBlank) := by
  induction text with
  | nil => exact .refl []
  | cons c text inductionHypothesis =>
      by_cases blank : isBlank c = true
      · rw [List.dropWhile_cons_of_pos blank]
        exact blanks_cons blank inductionHypothesis
      · rw [List.dropWhile_cons_of_neg blank]
        exact .refl _

theorem Blanks.areBlank {blanks : List Char} (listed : ∀ c ∈ blanks, c ∈ blankCharacters) :
    ∀ c ∈ blanks.map CodePoint.ofChar, isBlank c = true := by
  intro c member
  obtain ⟨blank, isListed, rfl⟩ := List.mem_map.1 member
  exact isBlank_iff.2 ⟨blank, listed blank isListed, rfl⟩

/-! ## Words -/

theorem word_iff_mem {spelling : Text} {value : Json} :
    Word spelling value ↔ (spelling, value) ∈ words := by
  constructor
  · intro isWord
    cases isWord <;> simp [words]
  · intro listed
    simp only [words, List.mem_cons, List.not_mem_nil, or_false, Prod.mk.injEq] at listed
    rcases listed with ⟨rfl, rfl⟩ | ⟨rfl, rfl⟩ | ⟨rfl, rfl⟩ | ⟨rfl, rfl⟩ | ⟨rfl, rfl⟩ | ⟨rfl, rfl⟩
    · exact .null
    · exact .yes
    · exact .no
    · exact .notANumber
    · exact .infinity
    · exact .negativeInfinity

theorem word_of_readWord? {text rest : Text} {token : Token}
    (read : readWord? text = some (token, rest)) :
    ∃ spelling value, token = .literal value ∧ Word spelling value ∧ text = spelling ++ rest := by
  obtain ⟨⟨spelling, value⟩, member, found⟩ := List.exists_of_findSome?_eq_some read
  obtain ⟨after, matched, equal⟩ := Option.map_eq_some_iff.1 found
  cases equal
  exact ⟨spelling, value, rfl, word_iff_mem.2 member, after?_eq_append matched⟩

/-- A word is read, whatever stands behind it. -/
theorem Word.beginsWith {spelling : Text} {value : Json} (isWord : Word spelling value)
    (rest : Text) : BeginsWith (spelling ++ rest) (.literal value) rest := by
  cases isWord <;> exact beginsWith_word (by decide) (by decide) (by decide) rfl

/-! ## Numbers -/

section Numbers

variable {text rest whole fraction digits : Text}

/-- No digit stands at the front. -/
def NoDigit (rest : Text) : Prop := ∀ c ∈ rest.head?, c.isDigit = false

theorem noDigit_dropWhile (text : Text) : NoDigit (text.dropWhile CodePoint.isDigit) := by
  intro c isHead
  have stops := List.head?_dropWhile_not CodePoint.isDigit text
  rw [Option.mem_def.1 isHead] at stops
  exact stops

/-- A digit and the digits behind it. -/
theorem areDigits_cons_takeWhile {c : CodePoint} (digit : c.isDigit = true) (text : Text) :
    AreDigits (c :: text.takeWhile CodePoint.isDigit) :=
  ⟨List.cons_ne_nil _ _,
    List.forall_mem_cons.2 ⟨digit, fun _ member => List.mem_takeWhile_imp member⟩⟩

theorem AreDigits.exists_cons (areDigits : AreDigits digits) :
    ∃ first more, digits = first :: more ∧ first.isDigit = true ∧
      ∀ c ∈ more, c.isDigit = true := by
  obtain ⟨nonempty, allDigits⟩ := areDigits
  cases digits with
  | nil => exact absurd rfl nonempty
  | cons first more =>
      exact ⟨first, more, rfl, (List.forall_mem_cons.1 allDigits).1,
        (List.forall_mem_cons.1 allDigits).2⟩

theorem isWhole_of_wholePart? (read : wholePart? text = some (whole, rest)) :
    IsWhole whole ∧ text = whole ++ rest ∧ (1 < whole.length → NoDigit rest) := by
  unfold wholePart? at read
  split at read
  · cases read
  · rename_i c more
    split at read
    · rename_i isZero
      cases read
      have digit : c.isDigit = true := by
        rw [isZero]
        decide
      exact ⟨⟨⟨List.cons_ne_nil _ _, List.forall_mem_singleton.2 digit⟩, fun _ => rfl⟩, rfl,
        fun long => absurd long (Nat.lt_irrefl 1)⟩
    · rename_i noZero
      split at read
      · rename_i digit
        cases read
        refine ⟨⟨areDigits_cons_takeWhile digit more, fun isZero => ?_⟩, ?_,
          fun _ => noDigit_dropWhile more⟩
        · cases isZero
          exact absurd rfl noZero
        · rw [List.cons_append, List.takeWhile_append_dropWhile]
      · cases read

theorem IsWhole.wholePart? (isWhole : IsWhole whole) (ends : NoDigit rest) :
    wholePart? (whole ++ rest) = some (whole, rest) := by
  obtain ⟨first, more, rfl, digit, moreDigits⟩ := isWhole.1.exists_cons
  rw [List.cons_append, Json.wholePart?]
  by_cases isZero : first = CodePoint.ofChar '0'
  · have single : more = [] := by
      have length := isWhole.2 (congrArg some isZero)
      exact List.eq_nil_of_length_eq_zero (Nat.succ.inj length)
    rw [if_pos isZero, single]
    rfl
  · obtain ⟨isMore, isRest⟩ := Text.takeWhile_dropWhile_append moreDigits ends
    rw [if_neg isZero, if_pos digit, isMore, isRest]

theorem areDigits_of_fractionPart? (read : fractionPart? text = some (fraction, rest)) :
    AreDigits fraction ∧ text = CodePoint.ofChar '.' :: (fraction ++ rest) := by
  unfold fractionPart? at read
  split at read
  · rename_i point digit more
    split at read
    · rename_i isFraction
      cases read
      refine ⟨areDigits_cons_takeWhile isFraction.2 more, ?_⟩
      rw [isFraction.1, List.cons_append, List.takeWhile_append_dropWhile]
    · cases read
  · cases read

theorem AreDigits.fractionPart? (areDigits : AreDigits fraction) (ends : NoDigit rest) :
    fractionPart? (CodePoint.ofChar '.' :: (fraction ++ rest)) = some (fraction, rest) := by
  obtain ⟨first, more, rfl, digit, moreDigits⟩ := areDigits.exists_cons
  obtain ⟨isMore, isRest⟩ := Text.takeWhile_dropWhile_append moreDigits ends
  rw [List.cons_append, Json.fractionPart?, if_pos ⟨rfl, digit⟩, isMore, isRest]

theorem areDigits_of_exponentDigits? {negative : Bool} {exponent : Int}
    (read : exponentDigits? negative text = some (exponent, rest)) :
    ∃ digits, AreDigits digits ∧ text = digits ++ rest ∧
      exponent = signed negative (Text.natValue digits) := by
  unfold exponentDigits? at read
  split at read
  · cases read
  · rename_i digit more
    split at read
    · rename_i isDigit
      cases read
      refine ⟨_, areDigits_cons_takeWhile isDigit more, ?_, rfl⟩
      rw [List.cons_append, List.takeWhile_append_dropWhile]
    · cases read

theorem AreDigits.exponentDigits? (areDigits : AreDigits digits) (ends : NoDigit rest)
    (negative : Bool) :
    exponentDigits? negative (digits ++ rest) =
      some (signed negative (Text.natValue digits), rest) := by
  obtain ⟨first, more, rfl, digit, moreDigits⟩ := areDigits.exists_cons
  obtain ⟨isMore, isRest⟩ := Text.takeWhile_dropWhile_append moreDigits ends
  rw [List.cons_append, Json.exponentDigits?, if_pos digit, isMore, isRest]
  rfl

theorem exponent_of_exponentPart? {exponent : Int}
    (read : exponentPart? text = some (exponent, rest)) :
    ∃ spelling, Exponent spelling exponent ∧ text = spelling ++ rest := by
  unfold exponentPart? at read
  split at read
  · cases read
  · split at read
    · rename_i isLetter
      split at read
      · cases read
      · split at read
        · rename_i isMinus
          obtain ⟨digits, areDigits, rfl, rfl⟩ := areDigits_of_exponentDigits? read
          rw [isMinus]
          exact ⟨_, .minus isLetter areDigits, rfl⟩
        · split at read
          · rename_i isPlus
            obtain ⟨digits, areDigits, rfl, rfl⟩ := areDigits_of_exponentDigits? read
            rw [isPlus]
            exact ⟨_, .plus isLetter areDigits, rfl⟩
          · obtain ⟨digits, areDigits, isText, rfl⟩ := areDigits_of_exponentDigits? read
            rw [isText]
            exact ⟨_, .bare isLetter areDigits, rfl⟩
    · cases read

/-- Behind its letter and sign, an exponent is its digits. -/
theorem Exponent.exists_digits {spelling : Text} {exponent : Int}
    (isExponent : Exponent spelling exponent) (rest : Text) :
    ∃ negative digits, AreDigits digits ∧ exponent = signed negative (Text.natValue digits) ∧
      exponentPart? (spelling ++ rest) = exponentDigits? negative (digits ++ rest) := by
  cases isExponent with
  | @bare letter digits isLetter areDigits =>
      refine ⟨false, digits, areDigits, rfl, ?_⟩
      obtain ⟨first, more, rfl, digit, -⟩ := areDigits.exists_cons
      rw [List.cons_append, List.cons_append, exponentPart?, if_pos isLetter,
        if_neg (CodePoint.ne_of_isDigit digit (by decide)),
        if_neg (CodePoint.ne_of_isDigit digit (by decide))]
  | @plus letter digits isLetter areDigits =>
      refine ⟨false, digits, areDigits, rfl, ?_⟩
      rw [List.cons_append, List.cons_append, exponentPart?, if_pos isLetter, if_neg (by decide),
        if_pos rfl]
  | @minus letter digits isLetter areDigits =>
      refine ⟨true, digits, areDigits, rfl, ?_⟩
      rw [List.cons_append, List.cons_append, exponentPart?, if_pos isLetter, if_pos rfl]

theorem Exponent.exponentPart? {spelling : Text} {exponent : Int}
    (isExponent : Exponent spelling exponent) (ends : NoDigit rest) :
    exponentPart? (spelling ++ rest) = some (exponent, rest) := by
  obtain ⟨negative, digits, areDigits, rfl, isRead⟩ := isExponent.exists_digits rest
  rw [isRead, areDigits.exponentDigits? ends]

/-- An exponent begins with its letter. -/
theorem Exponent.exists_cons {spelling : Text} {exponent : Int}
    (isExponent : Exponent spelling exponent) :
    ∃ letter more, spelling = letter :: more ∧ letter.isDigit = false ∧
      letter ≠ CodePoint.ofChar '.' := by
  have isOther : ∀ letter : CodePoint, letter = CodePoint.ofChar 'e' ∨
      letter = CodePoint.ofChar 'E' →
        letter.isDigit = false ∧ letter ≠ CodePoint.ofChar '.' := by
    rintro letter (rfl | rfl) <;> decide
  cases isExponent with
  | bare isLetter => exact ⟨_, _, rfl, isOther _ isLetter⟩
  | plus isLetter => exact ⟨_, _, rfl, isOther _ isLetter⟩
  | minus isLetter => exact ⟨_, _, rfl, isOther _ isLetter⟩

theorem sign_of_splitSign (text : Text) : text = sign (splitSign text).1 ++ (splitSign text).2 := by
  unfold splitSign
  split
  · rfl
  · split
    · rename_i isSign
      rw [isSign]
      rfl
    · rfl

theorem splitSign_sign {c : CodePoint} (digit : c.isDigit = true) (negative : Bool) (more : Text) :
    splitSign (sign negative ++ c :: more) = (negative, c :: more) := by
  cases negative with
  | true => rfl
  | false => exact splitSign_of_ne (CodePoint.ne_of_isDigit digit (by decide)) more

theorem fractionPart?_eq_none_of_head {c : CodePoint} (noPoint : c ≠ CodePoint.ofChar '.')
    (more : Text) : fractionPart? (c :: more) = none := by
  unfold fractionPart?
  split
  · rename_i equal
    cases equal
    rw [if_neg fun isFraction => noPoint isFraction.1]
  · rfl

theorem not_continuesInteger (noDigit : NoDigit rest) (noFraction : fractionPart? rest = none)
    (noExponent : exponentPart? rest = none) : ¬ ContinuesInteger rest := by
  rintro (⟨c, isHead, digit⟩ | ⟨digits, more, areDigits, rfl⟩ | ⟨spelling, exponent, more,
    isExponent, rfl⟩)
  · rw [noDigit c isHead] at digit
    cases digit
  · obtain ⟨first, others, rfl, digit, -⟩ := areDigits.exists_cons
    rw [List.cons_append, Json.fractionPart?, if_pos ⟨rfl, digit⟩] at noFraction
    cases noFraction
  · obtain ⟨negative, digits, areDigits, -, isRead⟩ := isExponent.exists_digits more
    obtain ⟨first, others, rfl, digit, -⟩ := areDigits.exists_cons
    rw [isRead, List.cons_append, exponentDigits?, if_pos digit] at noExponent
    cases noExponent

/-- What a number token says about the text. -/
theorem number_of_readNumber? {token : Token} (read : readNumber? text = some (token, rest)) :
    (∃ spelling value, token = .literal value ∧ Number spelling value ∧
        text = spelling ++ rest) ∨
      ∃ negative whole, token = .excessiveInteger whole.length ∧ IsWhole whole ∧
        Numeral.maxDigits < whole.length ∧ text = sign negative ++ (whole ++ rest) ∧
        ¬ ContinuesInteger rest := by
  unfold readNumber? at read
  have isSigned := sign_of_splitSign text
  generalize splitSign text = parts at read isSigned
  obtain ⟨negative, unsigned⟩ := parts
  simp only at read isSigned
  split at read
  · cases read
  · rename_i whole behindWhole wholeRead
    obtain ⟨isWhole, rfl, wholeEnds⟩ := isWhole_of_wholePart? wholeRead
    split at read
    · rename_i fraction behindFraction fractionRead
      obtain ⟨areDigits, rfl⟩ := areDigits_of_fractionPart? fractionRead
      cases exponentRead : exponentPart? behindFraction with
      | none =>
          rw [exponentRead] at read
          cases read
          refine .inl ⟨_, _, rfl, .fraction negative isWhole areDigits, ?_⟩
          rw [isSigned]
          simp
      | some pair =>
          rw [exponentRead] at read
          cases read
          obtain ⟨spelling, isExponent, rfl⟩ := exponent_of_exponentPart? exponentRead
          refine .inl ⟨_, _, rfl, .both negative isWhole areDigits isExponent, ?_⟩
          rw [isSigned]
          simp
    · rename_i noFraction
      split at read
      · rename_i exponentRead
        cases read
        obtain ⟨spelling, isExponent, rfl⟩ := exponent_of_exponentPart? exponentRead
        refine .inl ⟨_, _, rfl, .exponent negative isWhole isExponent, ?_⟩
        rw [isSigned]
        simp
      · rename_i noExponent
        cases read
        unfold integerToken
        split
        · rename_i long
          have several : 1 < whole.length := Nat.lt_trans (by decide) long
          exact .inr ⟨negative, whole, rfl, isWhole, long, isSigned,
            not_continuesInteger (wholeEnds several) noFraction noExponent⟩
        · refine .inl ⟨_, _, rfl, .integer negative isWhole, ?_⟩
          rw [isSigned]
          simp

theorem EndsNumber.noDigit (ends : EndsNumber rest) : NoDigit rest := fun next isNext =>
  (ends next isNext).1

/-- A spelled number is read, if nothing continues it and it is no integer that is too long. -/
theorem Number.readNumber? {spelling : Text} {value : Json} (isNumber : Number spelling value)
    (ends : EndsNumber rest) :
    ∃ token, readNumber? (spelling ++ rest) = some (token, rest) ∧
      (token = .literal value ∨ ∃ digits, token = .excessiveInteger digits) := by
  have noPoint : ∀ fraction : Text, NoDigit (CodePoint.ofChar '.' :: fraction) := by
    intro fraction next isNext
    cases isNext
    decide
  have noLetter : ∀ {exponentSpelling : Text} {exponent : Int},
      Exponent exponentSpelling exponent → NoDigit (exponentSpelling ++ rest) ∧
        fractionPart? (exponentSpelling ++ rest) = none := by
    intro exponentSpelling exponent isExponent
    obtain ⟨letter, more, rfl, noDigit, noPoint⟩ := isExponent.exists_cons
    exact ⟨fun next isNext => by cases isNext; exact noDigit,
      fractionPart?_eq_none_of_head noPoint _⟩
  -- The whole part begins with a digit, so the sign is split off as it is spelled.
  have signSplit : ∀ {whole : Text} (negative : Bool) (behind : Text), IsWhole whole →
      splitSign (sign negative ++ (whole ++ behind)) = (negative, whole ++ behind) := by
    intro whole negative behind isWhole
    obtain ⟨first, more, rfl, digit, -⟩ := isWhole.1.exists_cons
    exact splitSign_sign digit negative (more ++ behind)
  unfold Json.readNumber?
  cases isNumber with
  | @integer whole negative isWhole =>
      rw [List.append_assoc, signSplit negative _ isWhole]
      simp only [isWhole.wholePart? ends.noDigit, fractionPart?_eq_none ends,
        exponentPart?_eq_none ends]
      refine ⟨_, rfl, ?_⟩
      unfold integerToken
      split
      · exact .inr ⟨_, rfl⟩
      · exact .inl rfl
  | fraction negative isWhole areDigits =>
      rw [List.append_assoc, List.append_assoc, List.cons_append, signSplit negative _ isWhole]
      simp only [isWhole.wholePart? (noPoint _), areDigits.fractionPart? ends.noDigit,
        exponentPart?_eq_none ends]
      exact ⟨_, rfl, .inl rfl⟩
  | exponent negative isWhole isExponent =>
      rw [List.append_assoc, List.append_assoc, signSplit negative _ isWhole]
      simp only [isWhole.wholePart? (noLetter isExponent).1, (noLetter isExponent).2,
        isExponent.exponentPart? ends.noDigit]
      exact ⟨_, rfl, .inl rfl⟩
  | both negative isWhole areDigits isExponent =>
      rw [List.append_assoc, List.append_assoc, List.cons_append, List.append_assoc,
        signSplit negative _ isWhole]
      simp only [isWhole.wholePart? (noPoint _), areDigits.fractionPart? (noLetter isExponent).1,
        isExponent.exponentPart? ends.noDigit]
      exact ⟨_, rfl, .inl rfl⟩

/-- A number begins with a digit, maybe behind a minus sign. -/
theorem Number.exists_digit {spelling : Text} {value : Json} (isNumber : Number spelling value) :
    ∃ negative first more, first.isDigit = true ∧ spelling = sign negative ++ first :: more := by
  have begins : ∀ {whole : Text} (negative : Bool) (behind : Text), IsWhole whole →
      ∃ negative' first more, first.isDigit = true ∧
        sign negative ++ (whole ++ behind) = sign negative' ++ first :: more := by
    intro whole negative behind isWhole
    obtain ⟨first, more, rfl, digit, -⟩ := isWhole.1.exists_cons
    exact ⟨negative, first, more ++ behind, digit, rfl⟩
  cases isNumber with
  | integer negative isWhole =>
      obtain ⟨first, more, rfl, digit, -⟩ := isWhole.1.exists_cons
      exact ⟨negative, first, more, digit, rfl⟩
  | fraction negative isWhole => exact begins negative _ isWhole
  | exponent negative isWhole => exact begins negative _ isWhole
  | both negative isWhole => exact begins negative _ isWhole

/-- The text begins with the token of a spelled number. -/
theorem Number.beginsWith {spelling : Text} {value : Json} (isNumber : Number spelling value)
    (ends : EndsNumber rest) :
    ∃ token, BeginsWith (spelling ++ rest) token rest ∧
      (token = .literal value ∨ ∃ digits, token = .excessiveInteger digits) := by
  obtain ⟨token, isRead, isToken⟩ := isNumber.readNumber? ends
  obtain ⟨negative, first, more, digit, rfl⟩ := isNumber.exists_digit
  refine ⟨token, ?_, isToken⟩
  cases negative with
  | true =>
      exact ⟨CodePoint.ofChar '-', first :: (more ++ rest), rfl, by decide,
        readToken_number (by decide) (by decide) (readWord?_of_minus digit _) isRead⟩
  | false =>
      exact ⟨first, more ++ rest, rfl, isBlank_of_isDigit digit,
        readToken_number (punctuation?_of_isDigit digit)
          (CodePoint.ne_of_isDigit digit (by decide)) (readWord?_of_isDigit digit _) isRead⟩

end Numbers

/-! ## Strings -/

section Strings

variable {text rest : Text} {c : CodePoint}

theorem hexValue?_lt {n : Nat} (digit : c.hexValue? = some n) : n < 16 := by
  unfold CodePoint.hexValue? at digit
  split at digit
  · rename_i isDecimal
    have range := CodePoint.within_eq_true_iff.1 isDecimal
    cases digit
    omega
  · split at digit
    · rename_i isSmall
      have range := CodePoint.within_eq_true_iff.1 isSmall
      cases digit
      omega
    · split at digit
      · rename_i isLarge
        have range := CodePoint.within_eq_true_iff.1 isLarge
        cases digit
        omega
      · cases digit

theorem hexDigits_of_fourHexDigits? (read : fourHexDigits? text = some (c, rest)) :
    ∃ digits next more, HexDigits digits c ∧ rest = next :: more ∧ text = digits ++ rest := by
  unfold fourHexDigits? at read
  split at read
  · rename_i first second third fourth next more
    simp only [Option.pure_def, Option.bind_eq_bind, Option.bind_eq_some_iff, Option.some.injEq,
      Prod.mk.injEq] at read
    obtain ⟨w, isFirst, x, isSecond, y, isThird, z, isFourth, isNamed, rfl⟩ := read
    have bounds := And.intro (hexValue?_lt isFirst) (hexValue?_lt isSecond)
    have moreBounds := And.intro (hexValue?_lt isThird) (hexValue?_lt isFourth)
    refine ⟨[first, second, third, fourth], next, more,
      .four isFirst isSecond isThird isFourth ?_, rfl, rfl⟩
    rw [← isNamed, CodePoint.ofNat, dif_pos (by omega)]
  · cases read

theorem HexDigits.fourHexDigits? {digits : Text} (named : HexDigits digits c) (next : CodePoint)
    (more : Text) : fourHexDigits? (digits ++ next :: more) = some (c, next :: more) := by
  cases named with
  | four first second third fourth names =>
      simp only [List.cons_append, List.nil_append, Json.fourHexDigits?, first, second, third,
        fourth, Option.bind_eq_bind, Option.bind_some, Option.pure_def, ofNat_eq_of_val names]

theorem beginsLowEscape_of_lowSurrogateEscape? {low : CodePoint}
    (read : lowSurrogateEscape? text = some (low, rest)) :
    ∃ digits, HexDigits digits low ∧ low.isLowSurrogate = true ∧ text = numberEscape digits rest ∧
      BeginsLowEscape text := by
  obtain ⟨after, rfl, isRead⟩ := lowSurrogateEscape?_eq_some read
  obtain ⟨digits, next, more, named, rfl, rfl⟩ := hexDigits_of_fourHexDigits? isRead
  rw [lowSurrogateEscape?, if_pos ⟨rfl, rfl⟩, isRead] at read
  simp only [Option.ite_none_right_eq_some] at read
  exact ⟨digits, named, read.1, rfl, digits, low, next, more, named, read.1, rfl⟩

theorem HexDigits.lowSurrogateEscape? {digits : Text} (named : HexDigits digits c)
    (isLow : c.isLowSurrogate = true) (next : CodePoint) (more : Text) :
    lowSurrogateEscape? (numberEscape digits (next :: more)) = some (c, next :: more) := by
  rw [numberEscape, Json.lowSurrogateEscape?, if_pos ⟨rfl, rfl⟩, named.fourHexDigits?]
  exact if_pos isLow

theorem lowSurrogateEscape?_eq_none_iff :
    lowSurrogateEscape? text = none ↔ ¬ BeginsLowEscape text := by
  constructor
  · rintro nothing ⟨digits, low, next, more, named, isLow, rfl⟩
    rw [named.lowSurrogateEscape? isLow] at nothing
    cases nothing
  · intro noEscape
    cases read : lowSurrogateEscape? text with
    | none => rfl
    | some result =>
        obtain ⟨_, _, _, _, begins⟩ := beginsLowEscape_of_lowSurrogateEscape? read
        exact absurd begins noEscape

/-- Behind the letter of an escape stand the digits of a code point, or those of two halves. -/
theorem hexDigits_of_unicodeEscape? (read : unicodeEscape? text = some (c, rest)) :
    (∃ digits, HexDigits digits c ∧ (c.isHighSurrogate = true → ¬ BeginsLowEscape rest) ∧
        text = digits ++ rest) ∨
      ∃ digits others high low, HexDigits digits high ∧ HexDigits others low ∧
        high.isHighSurrogate = true ∧ low.isLowSurrogate = true ∧
        c = CodePoint.joinSurrogates high low ∧ text = digits ++ numberEscape others rest := by
  unfold unicodeEscape? at read
  split at read
  · cases read
  · rename_i first behind isFirst
    obtain ⟨digits, _, _, named, _, rfl⟩ := hexDigits_of_fourHexDigits? isFirst
    split at read
    · rename_i isHigh
      split at read
      · rename_i low behindLow isLow
        cases read
        obtain ⟨others, lowNamed, low, rfl, _⟩ := beginsLowEscape_of_lowSurrogateEscape? isLow
        exact .inr ⟨digits, others, first, _, named, lowNamed, isHigh, low, rfl, rfl⟩
      · rename_i noLow
        cases read
        exact .inl ⟨digits, named, fun _ => lowSurrogateEscape?_eq_none_iff.1 noLow, rfl⟩
    · rename_i noHigh
      cases read
      exact .inl ⟨digits, named, fun isHigh => absurd isHigh noHigh, rfl⟩

theorem escapes_iff {letter : CodePoint} :
    simpleEscape? letter = some c ↔
      ∃ named denoted, (named, denoted) ∈ escapes ∧ letter = CodePoint.ofChar named ∧
        c = CodePoint.ofChar denoted := by
  constructor
  · intro escape
    unfold simpleEscape? at escape
    iterate 8
      split at escape
      · rename_i isLetter
        cases escape
        exact ⟨_, _, by simp [escapes], isLetter, rfl⟩
    cases escape
  · rintro ⟨named, denoted, listed, rfl, rfl⟩
    simp only [escapes, List.mem_cons, List.not_mem_nil, or_false, Prod.mk.injEq] at listed
    rcases listed with ⟨rfl, rfl⟩ | ⟨rfl, rfl⟩ | ⟨rfl, rfl⟩ | ⟨rfl, rfl⟩ | ⟨rfl, rfl⟩ | ⟨rfl, rfl⟩ |
      ⟨rfl, rfl⟩ | ⟨rfl, rfl⟩ <;> decide

/-- **Strings, soundness.**  What is read as a string is spelled up to the closing quote. -/
theorem inside_of_readString {opening before value : Text}
    (read : readString opening before text = (.text value, rest)) :
    ∃ inside, value = before.reverse ++ inside ∧ Inside inside text rest := by
  fun_induction readString opening before text with
  | case1 => cases read
  | case2 before rest =>
      cases read
      exact ⟨[], (List.append_nil _).symm, .closing⟩
  | case3 => cases read
  | case4 before after point behind escape _ inductionHypothesis =>
      obtain ⟨inside, rfl, isInside⟩ := inductionHypothesis read
      refine ⟨point :: inside, by simp, ?_⟩
      rcases hexDigits_of_unicodeEscape? escape with ⟨digits, named, alone, rfl⟩ |
        ⟨digits, others, high, low, highNamed, lowNamed, isHigh, isLow, rfl, rfl⟩
      · exact .number named alone isInside
      · exact .pair isHigh isLow highNamed lowNamed isInside
  | case5 => cases read
  | case6 before letter after _ point escape _ inductionHypothesis =>
      obtain ⟨inside, rfl, isInside⟩ := inductionHypothesis read
      obtain ⟨named, denoted, listed, rfl, rfl⟩ := escapes_iff.1 escape
      exact ⟨CodePoint.ofChar denoted :: inside, by simp, .letter listed isInside⟩
  | case7 => cases read
  | case8 => cases read
  | case9 before c rest noQuote noBackslash noControl inductionHypothesis =>
      obtain ⟨inside, rfl, isInside⟩ := inductionHypothesis read
      exact ⟨c :: inside, by simp, .itself (Nat.not_lt.1 noControl) noQuote noBackslash isInside⟩

/-- The closing quote is still to come. -/
theorem Inside.exists_cons {value : Text} (isInside : Inside value text rest) :
    ∃ next more, text = next :: more := by
  cases isInside <;> exact ⟨_, _, rfl⟩

/-- **Strings, completeness.**  What is spelled up to the closing quote is read as a string. -/
theorem Inside.readString {value : Text} (isInside : Inside value text rest)
    (opening before : Text) :
    readString opening before text = (.text (before.reverse ++ value), rest) := by
  induction isInside generalizing before with
  | closing => rw [readString_quote, List.append_nil]
  | itself noControl noQuote noBackslash _ inductionHypothesis =>
      rw [readString_itself opening before noControl noQuote noBackslash, inductionHypothesis]
      simp
  | letter listed _ inductionHypothesis =>
      have noNumber : ∀ pair ∈ escapes, CodePoint.ofChar pair.1 ≠ CodePoint.ofChar 'u' := by decide
      rw [readString_letter opening before (escapes_iff.2 ⟨_, _, listed, rfl, rfl⟩)
        (noNumber _ listed), inductionHypothesis]
      simp
  | @number digits value text rest named isNamed alone behind inductionHypothesis =>
      obtain ⟨next, more, rfl⟩ := behind.exists_cons
      have escape : unicodeEscape? (digits ++ next :: more) = some (named, next :: more) := by
        rw [unicodeEscape?, isNamed.fourHexDigits?]
        by_cases isHigh : named.isHighSurrogate = true
        · simp only [isHigh, if_true, lowSurrogateEscape?_eq_none_iff.2 (alone isHigh)]
        · simp only [isHigh, Bool.false_eq_true, if_false]
      rw [numberEscape, readString_unicode opening before escape, inductionHypothesis]
      simp
  | @pair digits others value text rest high low isHigh isLow highNamed lowNamed behind
      inductionHypothesis =>
      obtain ⟨next, more, rfl⟩ := behind.exists_cons
      have escape : unicodeEscape? (digits ++ numberEscape others (next :: more)) =
          some (CodePoint.joinSurrogates high low, next :: more) := by
        rw [unicodeEscape?, numberEscape, highNamed.fourHexDigits?]
        simp only [isHigh, if_true]
        rw [← numberEscape, lowNamed.lowSurrogateEscape? isLow]
      rw [numberEscape, readString_unicode opening before escape, inductionHypothesis]
      simp

end Strings

/-! ## Tokens -/

/-- What a token that is not faulty says about the text in front of the rest. -/
inductive Lexeme : Token → Text → Text → Prop where
  | beginArray {rest : Text} : Lexeme .beginArray (CodePoint.ofChar '[' :: rest) rest
  | endArray {rest : Text} : Lexeme .endArray (CodePoint.ofChar ']' :: rest) rest
  | beginObject {rest : Text} : Lexeme .beginObject (CodePoint.ofChar '\x7b' :: rest) rest
  | endObject {rest : Text} : Lexeme .endObject (CodePoint.ofChar '\x7d' :: rest) rest
  | nameSeparator {rest : Text} : Lexeme .nameSeparator (CodePoint.ofChar ':' :: rest) rest
  | valueSeparator {rest : Text} : Lexeme .valueSeparator (CodePoint.ofChar ',' :: rest) rest
  | text {value inside rest : Text} (isInside : Inside value inside rest) :
      Lexeme (.text value) (CodePoint.ofChar '"' :: inside) rest
  | literal {value : Json} {text rest : Text} (spells : Spells (.value value) text rest) :
      Lexeme (.literal value) text rest
  | excessiveInteger {negative : Bool} {whole rest : Text} (isWhole : IsWhole whole)
      (long : Numeral.maxDigits < whole.length) (ends : ¬ ContinuesInteger rest) :
      Lexeme (.excessiveInteger whole.length) (sign negative ++ (whole ++ rest)) rest

theorem lexeme_of_punctuation? {c : CodePoint} {token : Token}
    (isToken : punctuation? c = some token) (rest : Text) : Lexeme token (c :: rest) rest := by
  unfold punctuation? at isToken
  repeat'
    split at isToken
    · rename_i isCharacter
      cases isToken
      rw [isCharacter]
      constructor
  cases isToken

/-- A token that is read is a lexeme, unless no state accepts it. -/
theorem lexeme_readToken (c : CodePoint) (more : Text) :
    (readToken c more).1.IsFaulty ∨
      Lexeme (readToken c more).1 (c :: more) (readToken c more).2 := by
  cases read : readToken c more
  rename_i token rest
  show token.IsFaulty ∨ Lexeme token (c :: more) rest
  unfold readToken at read
  split at read
  · rename_i isToken
    cases read
    exact .inr (lexeme_of_punctuation? isToken _)
  · split at read
    · rename_i isQuote
      rcases readString_cases (c :: more) [] more with ⟨value, isText⟩ | faulty
      · rw [read] at isText
        cases isText
        obtain ⟨inside, rfl, isInside⟩ := inside_of_readString read
        rw [isQuote]
        exact .inr (.text isInside)
      · rw [read] at faulty
        exact .inl faulty
    · split at read
      · rename_i isWord
        cases read
        obtain ⟨spelling, value, rfl, word, isText⟩ := word_of_readWord? isWord
        rw [isText]
        exact .inr (.literal (.word word))
      · cases number : readNumber? (c :: more) with
        | none =>
            rw [number] at read
            cases read
            exact .inl trivial
        | some result =>
            rw [number] at read
            cases read
            rcases number_of_readNumber? number with ⟨spelling, value, rfl, isNumber, isText⟩ |
              ⟨negative, whole, rfl, isWhole, long, isText, ends⟩
            · rw [isText]
              exact .inr (.literal (.number isNumber))
            · rw [isText]
              exact .inr (.excessiveInteger isWhole long ends)

/-- A string is read as a token. -/
theorem Inside.beginsWith {value inside rest : Text} (isInside : Inside value inside rest) :
    BeginsWith (CodePoint.ofChar '"' :: inside) (.text value) rest := by
  have noPunctuation : punctuation? (CodePoint.ofChar '"') = none := by decide
  refine ⟨CodePoint.ofChar '"', inside, rfl, by decide, ?_⟩
  rw [readToken, noPunctuation]
  exact isInside.readString _ []

end Findings.Json
