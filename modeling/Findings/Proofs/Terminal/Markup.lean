import Mathlib.Data.List.Chain
import Findings.Proofs.Except
import Findings.Proofs.Text.CodePoint
import Findings.Proofs.Text.Numerals
import Findings.Files.Access
import Findings.Terminal.Markup

/-!
Contract: texts without tags.

Owns:
- `IsTagFree`, the texts in which no bracket opens a tag: they are printed without a fault
  (`exists_printMarkup`);
- messages on refused operations are such texts if there is no opening bracket in the path.

The only brackets of such a message are around a number that a capital letter comes before, which begins
no tag.
-/

set_option autoImplicit false

namespace Findings

namespace Terminal

/-- The bracket that tags begin with. -/
def openingBracket : CodePoint := CodePoint.ofChar '['

/-- No bracket opens a tag. -/
def IsTagFree (text : Text) : Prop :=
  List.IsChain (fun left right => left = openingBracket → isTagStart right = false) text

instance (text : Text) : Decidable (IsTagFree text) := by
  unfold IsTagFree
  infer_instance

/-! ## Reading -/

section Reading

theorem readTag?_of_head {text : Text} (noStart : ∀ c ∈ text.head?, isTagStart c = false) :
    readTag? text = none := by
  unfold readTag?
  rw [if_neg]
  rw [Option.any_eq_true]
  rintro ⟨c, isHead, starts⟩
  rw [noStart c isHead] at starts
  cases starts

theorem readEscapedTag?_of_isTagFree {text : Text} (free : IsTagFree text) :
    readEscapedTag? text = none := by
  unfold readEscapedTag?
  have behind := List.IsChain.suffix free (List.dropWhile_suffix (· = CodePoint.ofChar '\\'))
  split
  · rfl
  · rename_i c rest dropped
    rw [dropped] at behind
    obtain ⟨notStarting, _⟩ := List.isChain_cons.1 behind
    split
    · rename_i isBracket
      rw [readTag?_of_head fun next isHead => notStarting next isHead isBracket]
      rfl
    · rfl

/-- A text in which no tag begins anywhere is one piece. -/
theorem piecesFrom_of_eq_none (position : Nat) (before : Text) {text : Text}
    (noTag : ∀ ending, ending <:+ text → readEscapedTag? ending = none) :
    piecesFrom position before text = plainUnlessEmpty (before.reverse ++ text) := by
  induction text generalizing position before with
  | nil =>
      rw [piecesFrom, List.append_nil]
  | cons c rest inductionHypothesis =>
      have noTagBehind : ∀ ending, ending <:+ rest → readEscapedTag? ending = none :=
        fun ending isEnding => noTag ending (isEnding.trans (List.suffix_cons c rest))
      rw [piecesFrom]
      split
      · rename_i tag
        rw [noTag _ List.suffix_rfl] at tag
        cases tag
      · rw [inductionHypothesis _ _ noTagBehind, List.reverse_cons, List.append_assoc,
          List.singleton_append]

/-- What is printed of a text in which no tag begins anywhere. -/
theorem ofMarkup_of_eq_none {markup : Text}
    (noTag : ∀ ending, ending <:+ markup → readEscapedTag? ending = none) :
    Printed.ofMarkup markup =
      .ok ⟨dropControls (replaceMentions (unescaped markup)), []⟩ := by
  have isPlain : (plainUnlessEmpty markup).foldlM Printing.addPiece {} =
      Except.ok { text := dropControls (replaceMentions (unescaped markup)) } := by
    cases markup with
    | nil =>
        rw [unescaped, replaceMentions]
        rfl
    | cons c rest => rfl
  unfold Printed.ofMarkup piecesOf
  rw [piecesFrom_of_eq_none 0 [] noTag, List.reverse_nil, List.nil_append, isPlain, ok_map]
  simp [Printing.allSpans]

/-- A text that is printed under no style is laid out. -/
theorem printMarkup_of_ofMarkup {markup text : Text} (width : Nat)
    (printed : Printed.ofMarkup markup = .ok ⟨text, []⟩) :
    printMarkup width markup = .ok (print width text) := by
  unfold printMarkup
  rw [printed]
  rfl

/-- **Texts without tags.**  Such a text is printed without a fault. -/
theorem exists_printMarkup (width : Nat) {markup : Text} (free : IsTagFree markup) :
    ∃ printed, printMarkup width markup = .ok printed :=
  ⟨_, printMarkup_of_ofMarkup width (ofMarkup_of_eq_none fun _ isEnding =>
    readEscapedTag?_of_isTagFree (List.IsChain.suffix free isEnding))⟩

end Reading

/-! ## Texts without brackets -/

section Brackets

theorem isTagFree_of_not_mem {text : Text} (noBracket : openingBracket ∉ text) :
    IsTagFree text := by
  unfold IsTagFree
  rw [List.isChain_iff_getElem]
  intro index inside isBracket
  exact absurd (isBracket ▸ List.getElem_mem _) noBracket

theorem IsTagFree.append {left right : Text} (leftFree : IsTagFree left)
    (last : openingBracket ∉ left.getLast?) (rightFree : IsTagFree right) :
    IsTagFree (left ++ right) := by
  refine List.isChain_append.2 ⟨leftFree, rightFree, ?_⟩
  rintro c isLast _ _ rfl
  exact absurd isLast last

theorem openingBracket_not_mem_ofNat (n : Nat) : openingBracket ∉ Text.ofNat n := fun member =>
  CodePoint.ne_of_isDigit (Text.isDigit_of_mem_ofNat member) (by decide) rfl

theorem openingBracket_not_mem_hexadecimal (width n : Nat) :
    openingBracket ∉ Text.hexadecimal width n := by
  induction width generalizing n with
  | zero => exact List.not_mem_nil
  | succ width inductionHypothesis =>
      rw [Text.hexadecimal, List.mem_append, List.mem_singleton]
      rintro (inFront | isDigit)
      · exact inductionHypothesis _ inFront
      · have value := CodePoint.hexDigit_val n
        have bracket : openingBracket.val = 0x5B := rfl
        rw [← isDigit, bracket] at value
        split at value <;> omega

theorem openingBracket_not_mem_quotedPoint (quote : CodePoint) {c : CodePoint}
    (noBracket : c ≠ openingBracket) : openingBracket ∉ Text.quotedPoint quote c := by
  have numbered : ∀ (mark : String) (width : Nat), openingBracket ∉ Text.ofString mark →
      openingBracket ∉ Text.ofString mark ++ Text.hexadecimal width c.val := by
    intro mark width unmarked member
    rcases List.mem_append.1 member with inMark | inNumber
    · exact unmarked inMark
    · exact openingBracket_not_mem_hexadecimal _ _ inNumber
  have notBackslash : openingBracket ≠ Text.backslash := by decide
  unfold Text.quotedPoint
  split
  · simp [noBracket.symm, notBackslash]
  split
  · decide
  split
  · decide
  split
  · decide
  split
  · simp [noBracket.symm]
  split
  · exact numbered _ _ (by decide)
  split
  · exact numbered _ _ (by decide)
  · exact numbered _ _ (by decide)

/-- Quotes add no bracket to a text. -/
theorem openingBracket_not_mem_quoted {text : Text} (noBracket : openingBracket ∉ text) :
    openingBracket ∉ Text.quoted text := by
  have isQuote : Text.quoteFor text ≠ openingBracket := by
    unfold Text.quoteFor
    split <;> decide
  unfold Text.quoted
  simp only [List.cons_append, List.mem_cons, List.mem_append, List.mem_flatMap, List.not_mem_nil,
    or_false, not_or, not_exists, not_and]
  refine ⟨isQuote.symm, fun c member => ?_, isQuote.symm⟩
  exact openingBracket_not_mem_quotedPoint _ fun isBracket => noBracket (isBracket ▸ member)

/-- **Messages on refused operations.**  Such a message has no tags, if there is no bracket in the path
nor in what is put in front of the message. -/
theorem isTagFree_message {fault : Files.Fault} {before : Text}
    (noBracketBefore : openingBracket ∉ before) (noBracket : openingBracket ∉ fault.path.toText) :
    IsTagFree (before ++ fault.message) := by
  have behindNumber : openingBracket ∉ Text.ofNat fault.cause.number ++ Text.ofString "] "
      ++ fault.cause.message ++ Text.ofString ": " ++ Text.quoted fault.path.toText := by
    have ofCause : openingBracket ∉ fault.cause.message := by
      cases fault.cause <;> decide
    have closing : openingBracket ∉ Text.ofString "] " := by decide
    have separator : openingBracket ∉ Text.ofString ": " := by decide
    simp only [List.mem_append, openingBracket_not_mem_ofNat, closing, ofCause, separator,
      openingBracket_not_mem_quoted noBracket, or_self, not_false_eq_true]
  have isMessage : fault.message = Text.ofString "[Errno " ++ (Text.ofNat fault.cause.number
      ++ Text.ofString "] " ++ fault.cause.message ++ Text.ofString ": "
      ++ Text.quoted fault.path.toText) := by
    unfold Files.Fault.message
    simp only [List.append_assoc]
  have numbered : IsTagFree (Text.ofString "[Errno ") := by decide
  rw [isMessage]
  exact (isTagFree_of_not_mem noBracketBefore).append
    (fun isLast => noBracketBefore (List.mem_of_getLast? isLast))
    (numbered.append (by decide) (isTagFree_of_not_mem behindNumber))

end Brackets

end Terminal

end Findings
