import Findings.Proofs.Json.Spelling
import Findings.Proofs.Path.Segments
import Findings.Text.Quoted

/-!
Contract: texts that show as themselves.

Owns:
- `Text.IsPrintable`, and that numerals and texts in quotes are printable, whatever is quoted;
- the only blank that is printable is the space.
-/

set_option autoImplicit false

namespace Findings

namespace CodePoint

theorem isPrintable_of_within {c : CodePoint} (range : c.within 0x20 0x7E = true) :
    c.isPrintable = true := by
  unfold isPrintable
  rw [range, Bool.true_or]

/-- What lies in a range of unprintable code points is not printable, unless it is one of ASCII. -/
theorem isPrintable_eq_false {c : CodePoint} {low high : Nat}
    (listed : (low, high) ∈ unprintableRanges) (range : low ≤ c.val ∧ c.val ≤ high)
    (noAscii : c.val < 0x20 ∨ 0x7E < c.val) : c.isPrintable = false := by
  have inRange : inRanges unprintableRanges c.val = true := by
    refine List.any_eq_true.2 ⟨_, listed, ?_⟩
    simpa using range
  unfold isPrintable
  rw [within_eq_false_iff.2 noAscii, inRange]
  rfl

/-- Ranges of code points that are not printable, in which all blanks lie but the space. -/
def unprintableBlankRanges : List (Nat × Nat) :=
  [(0x0, 0x1F), (0x7F, 0xA0), (0x1680, 0x1680), (0x1FFF, 0x200F), (0x2028, 0x202F),
    (0x205F, 0x206F), (0x2FFC, 0x3000)]

/-- The space is the only blank that is printable. -/
theorem eq_space_of_isBlank {c : CodePoint} (printable : c.isPrintable = true)
    (blank : c.isBlank = true) : c = CodePoint.ofChar ' ' := by
  by_contra different
  have noSpace : c.val ≠ 0x20 := by
    intro isSpace
    apply different
    cases c
    cases isSpace
    rfl
  have listed : ∀ range ∈ unprintableBlankRanges, range ∈ unprintableRanges := by decide
  obtain ⟨range, member, inside⟩ :
      ∃ range ∈ unprintableBlankRanges, range.1 ≤ c.val ∧ c.val ≤ range.2 := by
    simp only [isBlank, inRanges, blankRanges, List.any_cons, List.any_nil, Bool.or_false,
      Bool.or_eq_true, Bool.and_eq_true, decide_eq_true_eq] at blank
    simp only [unprintableBlankRanges, List.mem_cons, List.not_mem_nil, or_false,
      exists_eq_or_imp, exists_eq_left]
    omega
  have outside : ∀ range ∈ unprintableBlankRanges, range.2 < 0x20 ∨ 0x7E < range.1 := by decide
  have noAscii : c.val < 0x20 ∨ 0x7E < c.val := by
    have := outside range member
    omega
  rw [isPrintable_eq_false (listed range member) inside noAscii] at printable
  cases printable

end CodePoint

namespace Text

/-- Nothing but printable code points. -/
def IsPrintable (text : Text) : Prop := ∀ c ∈ text, c.isPrintable = true

instance (text : Text) : Decidable text.IsPrintable := by
  unfold IsPrintable
  infer_instance

theorem IsPrintable.append {left right : Text} (leftPrintable : left.IsPrintable)
    (rightPrintable : right.IsPrintable) : IsPrintable (left ++ right) :=
  List.forall_mem_append.2 ⟨leftPrintable, rightPrintable⟩

theorem isPrintable_singleton {c : CodePoint} (printable : c.isPrintable = true) :
    IsPrintable [c] := by
  intro other member
  rwa [List.mem_singleton.1 member]

theorem IsPrintable.isSurrogateFree {text : Text} (printable : text.IsPrintable) :
    text.IsSurrogateFree := fun c member =>
  CodePoint.isSurrogate_of_isPrintable (printable c member)

/-- Nothing but printable characters of ASCII. -/
def isPrintableAscii (characters : List Char) : Bool :=
  characters.all fun c => Nat.ble 0x20 c.toNat && Nat.ble c.toNat 0x7E

/-- What is to be decided of a literal is left to its characters, which are at hand without
decoding. -/
theorem isPrintable_literal {characters : List Char} (ascii : isPrintableAscii characters = true) :
    IsPrintable (ofString (String.ofList characters)) := by
  unfold ofString
  rw [String.toList_ofList]
  intro c member
  obtain ⟨character, isIn, rfl⟩ := List.mem_map.1 member
  have range := List.all_eq_true.1 ascii character isIn
  rw [Bool.and_eq_true, Nat.ble_eq, Nat.ble_eq] at range
  exact CodePoint.isPrintable_of_within (CodePoint.within_eq_true_iff.2 range)

theorem IsPrintable.append_literal {text : Text} {characters : List Char}
    (printable : text.IsPrintable) (ascii : isPrintableAscii characters = true) :
    IsPrintable (text ++ ofString (String.ofList characters)) :=
  printable.append (isPrintable_literal ascii)

theorem isPrintable_ofNat (n : Nat) : IsPrintable (ofNat n) := by
  intro c member
  have range := CodePoint.within_eq_true_iff.1 (isDigit_of_mem_ofNat member)
  exact CodePoint.isPrintable_of_within (CodePoint.within_eq_true_iff.2 (by omega))

theorem IsPrintable.append_ofNat {text : Text} (printable : text.IsPrintable) (n : Nat) :
    IsPrintable (text ++ ofNat n) :=
  printable.append (isPrintable_ofNat n)

theorem isPrintable_hexadecimal (width n : Nat) : IsPrintable (hexadecimal width n) := by
  induction width generalizing n with
  | zero => exact fun c member => absurd member List.not_mem_nil
  | succ width inductionHypothesis =>
      have value := CodePoint.hexDigit_val n
      refine (inductionHypothesis (n / 16)).append (isPrintable_singleton ?_)
      refine CodePoint.isPrintable_of_within (CodePoint.within_eq_true_iff.2 ?_)
      split at value <;> omega

theorem isPrintable_join {separator : Text} (separates : separator.IsPrintable)
    {parts : List Text} (printable : ∀ part ∈ parts, part.IsPrintable) :
    IsPrintable (join separator parts) := by
  intro c member
  rcases mem_of_mem_join member with inSeparator | ⟨part, isPart, inPart⟩
  · exact separates c inSeparator
  · exact printable part isPart c inPart

/-! ## Quotes -/

theorem isPrintable_quoteFor (text : Text) : (quoteFor text).isPrintable = true := by
  unfold quoteFor
  split <;> decide

theorem isPrintable_quotedPoint {quote : CodePoint} (quotePrintable : quote.isPrintable = true)
    (c : CodePoint) : (quotedPoint quote c).IsPrintable := by
  have numbered : ∀ (mark : Text) (width : Nat), mark.IsPrintable →
      IsPrintable (mark ++ hexadecimal width c.val) := fun mark width printable =>
    printable.append (isPrintable_hexadecimal width c.val)
  unfold quotedPoint
  split
  case isTrue escaped =>
    have isSelf : c.isPrintable = true := by
      rw [Bool.or_eq_true, decide_eq_true_eq, decide_eq_true_eq] at escaped
      rcases escaped with rfl | rfl
      · exact quotePrintable
      · decide
    exact (isPrintable_singleton (by decide)).append (isPrintable_singleton isSelf)
  split
  · decide
  split
  · decide
  split
  · decide
  split
  case isTrue printable => exact isPrintable_singleton printable
  split
  · exact numbered _ _ (by decide)
  split
  · exact numbered _ _ (by decide)
  · exact numbered _ _ (by decide)

/-- A text in quotes is printable, whatever it holds. -/
theorem isPrintable_quoted (text : Text) : (quoted text).IsPrintable := by
  have quotePrintable := isPrintable_quoteFor text
  have quote := isPrintable_singleton quotePrintable
  unfold quoted
  refine (quote.append fun c member => ?_).append quote
  obtain ⟨source, _, inside⟩ := List.mem_flatMap.1 member
  exact isPrintable_quotedPoint quotePrintable source c inside

end Text

end Findings
