import Mathlib.Algebra.Group.Nat.Defs
import Findings.Proofs.Text.CodePoint
import Findings.Proofs.Text.Lines
import Findings.Toml.Strings

/-!
Contract: basic strings on one line are read as the texts that they spell.

Owns:
- `SpellsBasic`, the ways to spell a text between two quotes: what can stand for itself may do so, and
  everything else, or anything, is written as an escape, of one letter or by number;
- `readString_of_spellsBasic`: the reader takes a spelled text for the text, whatever follows;
- no spelling holds a line end or anything that cannot be encoded (`SpellsBasic.isPlain`).

Does not own: literal strings and strings over several lines.
-/

set_option autoImplicit false

namespace Findings.Toml

/-! ## The spellings of a code point -/

/-- Hexadecimal digits in either case, the highest one first, that denote a number. -/
inductive SpellsNumber : Nat → Text → Prop where
  | nil : SpellsNumber 0 []
  | snoc {number value : Nat} {digits : Text} {digit : CodePoint}
      (before : SpellsNumber number digits) (isDigit : digit.hexValue? = some value) :
      SpellsNumber (number * 16 + value) (digits ++ [digit])

/-- The letters of escapes, and what they stand for. -/
def letterEscapes : List (CodePoint × CodePoint) :=
  [('b', '\x08'), ('t', '\t'), ('n', '\n'), ('f', '\x0c'), ('r', '\r'), ('"', '"'), ('\\', '\\')]

/-- The ways to spell a code point in a basic string. -/
inductive SpellsPoint (c : CodePoint) : Text → Prop where
  | itself (noQuote : c ≠ quoteMark) (noBackslash : c ≠ CodePoint.ofChar '\\')
      (noControl : isLineControl c = false) : SpellsPoint c [c]
  | letter {name : CodePoint} (named : (name, c) ∈ letterEscapes) : 
      SpellsPoint c [CodePoint.ofChar '\\', name]
  | fourDigits {digits : Text} (number : SpellsNumber c.val digits) (isFour : digits.length = 4) :
      SpellsPoint c (CodePoint.ofChar '\\' :: CodePoint.ofChar 'u' :: digits)
  | eightDigits {digits : Text} (number : SpellsNumber c.val digits) (isEight : digits.length = 8) :
      SpellsPoint c (CodePoint.ofChar '\\' :: CodePoint.ofChar 'U' :: digits)

/-- The ways to spell a text in a basic string, code point by code point. -/
inductive SpellsBasic : Text → Text → Prop where
  | nil : SpellsBasic [] []
  | cons {c : CodePoint} {text spelling spellings : Text} (first : SpellsPoint c spelling)
      (others : SpellsBasic text spellings) : SpellsBasic (c :: text) (spelling ++ spellings)

/-- The usual digits of a number, in small letters, spell it. -/
theorem spellsNumber_hexadecimal (width : Nat) {number : Nat} (fits : number < 16 ^ width) :
    SpellsNumber number (Text.hexadecimal width number) := by
  induction width generalizing number with
  | zero =>
      rw [Nat.lt_one_iff.1 fits]
      exact .nil
  | succ width inductionHypothesis =>
      have fitsBefore : number / 16 < 16 ^ width := Nat.div_lt_of_lt_mul (by omega)
      have splits : number = number / 16 * 16 + number % 16 := by omega
      rw [Text.hexadecimal]
      conv => arg 1; rw [splits]
      exact .snoc (inductionHypothesis fitsBefore) (CodePoint.hexValue?_hexDigit number)

/-! ## Reading -/

theorem hexNumber?_of_spellsNumber {number : Nat} {digits : Text}
    (spells : SpellsNumber number digits) : hexNumber? digits = some number := by
  induction spells with
  | nil => rfl
  | snoc before isDigit inductionHypothesis =>
      unfold hexNumber? at inductionHypothesis ⊢
      rw [List.foldlM_append, inductionHypothesis, Option.bind_eq_bind, Option.bind_some,
        List.foldlM_cons, isDigit]
      rfl

theorem readHexPoint_of_spellsNumber {c : CodePoint} (scalar : c.isSurrogate = false)
    {digits : Text} (number : SpellsNumber c.val digits) (rest : Text) :
    readHexPoint digits.length (digits ++ rest) = .ok (some c, rest) := by
  have bound := c.isLt
  have range := CodePoint.within_eq_false_iff.1 scalar
  rw [readHexPoint, List.take_left, List.drop_left, if_neg (Nat.lt_irrefl _),
    hexNumber?_of_spellsNumber number]
  dsimp only
  rw [dif_pos (by omega)]

theorem simpleEscape?_of_mem {c name : CodePoint} (named : (name, c) ∈ letterEscapes) :
    simpleEscape? name = some c ∧ name ≠ CodePoint.ofChar 'u' ∧ name ≠ CodePoint.ofChar 'U' := by
  have all : ∀ escape ∈ letterEscapes, simpleEscape? escape.1 = some escape.2 ∧
      escape.1 ≠ CodePoint.ofChar 'u' ∧ escape.1 ≠ CodePoint.ofChar 'U' := by decide
  exact all _ named

theorem readBasic_quoteMark (before rest : Text) :
    readBasic false before (quoteMark :: rest) = .ok (before.reverse, rest) := by
  rw [readBasic, if_pos rfl]
  rfl

/-- An escape is read as what it stands for. -/
theorem readBasic_escape {text rest : Text} {c : CodePoint}
    (escape : readEscape false text = .ok (some c, rest)) (before : Text) :
    readBasic false before (CodePoint.ofChar '\\' :: text) =
      readBasic false (c :: before) rest := by
  rw [readBasic, if_neg (by decide), if_pos rfl]
  split
  case h_1 isError =>
    rw [escape] at isError
    cases isError
  case h_2 isOk =>
    rw [escape] at isOk
    cases isOk
    rfl

theorem readBasic_of_spellsPoint {c : CodePoint} (scalar : c.isSurrogate = false) {spelling : Text}
    (spells : SpellsPoint c spelling) (before rest : Text) :
    readBasic false before (spelling ++ rest) = readBasic false (c :: before) rest := by
  cases spells with
  | itself noQuote noBackslash noControl =>
      rw [List.singleton_append, readBasic, if_neg noQuote, if_neg noBackslash]
      simp [isRefused, noControl]
  | letter named =>
      obtain ⟨isEscape, notShort, notLong⟩ := simpleEscape?_of_mem named
      rw [List.cons_append, List.singleton_append]
      apply readBasic_escape
      rw [readEscape, Bool.false_and, if_neg Bool.false_ne_true,
        if_neg notShort, if_neg notLong, isEscape]
  | fourDigits number isFour =>
      rw [List.cons_append, List.cons_append]
      apply readBasic_escape
      rw [readEscape, Bool.false_and, if_neg Bool.false_ne_true, if_pos rfl,
        ← isFour]
      exact readHexPoint_of_spellsNumber scalar number rest
  | eightDigits number isEight =>
      rw [List.cons_append, List.cons_append]
      apply readBasic_escape
      rw [readEscape, Bool.false_and, if_neg Bool.false_ne_true,
        if_neg (by decide), if_pos rfl, ← isEight]
      exact readHexPoint_of_spellsNumber scalar number rest

theorem readBasic_of_spellsBasic {text spelling : Text} (free : text.IsSurrogateFree)
    (spells : SpellsBasic text spelling) (before rest : Text) :
    readBasic false before (spelling ++ quoteMark :: rest) = .ok (before.reverse ++ text, rest) := by
  induction spells generalizing before with
  | nil =>
      rw [List.nil_append, readBasic_quoteMark, List.append_nil]
  | @cons c text _ _ first _ inductionHypothesis =>
      have scalar : c.isSurrogate = false := free c List.mem_cons_self
      have others : text.IsSurrogateFree := fun other member => free other (.tail c member)
      rw [List.append_assoc, readBasic_of_spellsPoint scalar first, inductionHypothesis others,
        List.reverse_cons, List.append_assoc, List.singleton_append]

/-- No spelling of a code point begins with a quote. -/
theorem SpellsPoint.exists_eq_cons {c : CodePoint} {spelling : Text}
    (spells : SpellsPoint c spelling) :
    ∃ first more, spelling = first :: more ∧ first ≠ quoteMark := by
  cases spells with
  | itself noQuote => exact ⟨c, [], rfl, noQuote⟩
  | letter => exact ⟨_, _, rfl, by decide⟩
  | fourDigits => exact ⟨_, _, rfl, by decide⟩
  | eightDigits => exact ⟨_, _, rfl, by decide⟩

/-- Behind the first quote of a basic string there is no sign of a string over several lines. -/
theorem after?_of_spellsBasic {text spelling : Text} (spells : SpellsBasic text spelling)
    {rest : Text} (ends : ∀ c ∈ rest.head?, c ≠ quoteMark) :
    Text.after? [quoteMark, quoteMark] (spelling ++ quoteMark :: rest) = none := by
  cases spells with
  | nil =>
      rw [List.nil_append, Text.after?, if_pos rfl]
      cases rest with
      | nil => rfl
      | cons c rest => rw [Text.after?, if_neg (ends c rfl).symm]
  | cons first =>
      obtain ⟨start, more, rfl, noQuote⟩ := first.exists_eq_cons
      rw [List.cons_append, List.cons_append, Text.after?, if_neg noQuote.symm]

/-- **Reading.**  A spelled text is read as the text. -/
theorem readString_of_spellsBasic {text spelling : Text} (free : text.IsSurrogateFree)
    (spells : SpellsBasic text spelling) {rest : Text} (ends : ∀ c ∈ rest.head?, c ≠ quoteMark) :
    readString quoteMark (spelling ++ quoteMark :: rest) = .ok (text, rest) := by
  rw [readString, after?_of_spellsBasic spells ends]
  dsimp only
  rw [readOneLine, if_neg (by decide), readBasic_of_spellsBasic free spells, List.reverse_nil,
    List.nil_append]

/-! ## Characters -/

/-- What may stand in a line of a document that is encoded: no control but the tab, and no
surrogate. -/
def IsPlain (c : CodePoint) : Prop := isLineControl c = false ∧ c.isSurrogate = false

instance (c : CodePoint) : Decidable (IsPlain c) := inferInstanceAs (Decidable (_ ∧ _))

theorem isPlain_of_within {c : CodePoint} (visible : c.within 0x21 0x7E = true) : IsPlain c := by
  have range := CodePoint.within_eq_true_iff.1 visible
  refine ⟨?_, CodePoint.within_eq_false_iff.2 (by omega)⟩
  have notLow : ¬ c.val < 0x20 := by omega
  have notLast : c.val ≠ 0x7F := by omega
  simp [isLineControl, isControl, notLow, notLast]

theorem isLine_of_isPlain {line : Text} (visible : line ≠ []) (plain : ∀ c ∈ line, IsPlain c) :
    line.IsLine := by
  have noReturn : ¬ IsPlain Text.carriageReturn := by decide
  have noFeed : ¬ IsPlain Text.lineFeed := by decide
  refine ⟨visible, fun c member => ⟨?_, ?_⟩⟩
  · rintro rfl
    exact noReturn (plain _ member)
  · rintro rfl
    exact noFeed (plain _ member)

theorem isPlain_of_hexValue? {c : CodePoint} {value : Nat} (isDigit : c.hexValue? = some value) :
    IsPlain c := by
  apply isPlain_of_within
  rw [CodePoint.within_eq_true_iff]
  unfold CodePoint.hexValue? at isDigit
  split at isDigit
  case isTrue decimal =>
    have range := CodePoint.within_eq_true_iff.1 decimal
    omega
  split at isDigit
  case isTrue small =>
    have range := CodePoint.within_eq_true_iff.1 small
    omega
  split at isDigit
  case isTrue large =>
    have range := CodePoint.within_eq_true_iff.1 large
    omega
  case isFalse => cases isDigit

theorem SpellsNumber.isPlain {number : Nat} {digits : Text} (spells : SpellsNumber number digits) :
    ∀ c ∈ digits, IsPlain c := by
  induction spells with
  | nil => exact fun c member => absurd member List.not_mem_nil
  | snoc before isDigit inductionHypothesis =>
      intro c member
      rcases List.mem_append.1 member with inBefore | isLast
      · exact inductionHypothesis c inBefore
      · rw [List.mem_singleton.1 isLast]
        exact isPlain_of_hexValue? isDigit

theorem SpellsPoint.isPlain {c : CodePoint} (scalar : c.isSurrogate = false) {spelling : Text}
    (spells : SpellsPoint c spelling) : ∀ other ∈ spelling, IsPlain other := by
  have marks : ∀ mark ∈ [CodePoint.ofChar '\\', 'u', 'U'], IsPlain mark := by decide
  have names : ∀ escape ∈ letterEscapes, IsPlain escape.1 := by decide
  intro other member
  cases spells with
  | itself _ _ noControl =>
      rw [List.mem_singleton.1 member]
      exact ⟨noControl, scalar⟩
  | letter named =>
      rcases List.mem_cons.1 member with rfl | isName
      · exact marks _ (by simp)
      · rw [List.mem_singleton.1 isName]
        exact names _ named
  | fourDigits number | eightDigits number =>
      rcases List.mem_cons.1 member with rfl | member
      · exact marks _ (by simp)
      rcases List.mem_cons.1 member with rfl | inDigits
      · exact marks _ (by simp)
      · exact number.isPlain other inDigits

theorem SpellsBasic.isPlain {text spelling : Text} (free : text.IsSurrogateFree)
    (spells : SpellsBasic text spelling) : ∀ c ∈ spelling, IsPlain c := by
  induction spells with
  | nil => exact fun c member => absurd member List.not_mem_nil
  | @cons c text _ _ first _ inductionHypothesis =>
      intro other member
      rcases List.mem_append.1 member with inFirst | inOthers
      · exact first.isPlain (free c List.mem_cons_self) other inFirst
      · exact inductionHypothesis (fun other member => free other (.tail c member)) other inOthers

end Findings.Toml
