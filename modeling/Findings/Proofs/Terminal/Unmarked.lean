import Mathlib.Data.List.Infix
import Findings.Proofs.Terminal.Layout
import Findings.Proofs.Terminal.Markup

/-!
Contract: texts in which a terminal finds no markup.

Owns:
- `IsUnmarked`, the texts without tags, without escaped brackets and without pictographs by name,
  which can be decided;
- such a text is printed as it is (`printMarkup_of_isUnmarked`).
-/

set_option autoImplicit false

namespace Findings.Terminal

/-- The bracket that tags end with. -/
def closingBracket : CodePoint := CodePoint.ofChar ']'

/-- There is nothing in a text that a terminal takes for markup: no tag in brackets, no backslash in
front of a bracket, and no name of a pictograph between two colons. -/
structure IsUnmarked (text : Text) : Prop where
  noTag : ∀ content, openingBracket :: (content ++ [closingBracket]) <:+: text →
    (∃ c ∈ content.head?, isTagStart c = true) → ∃ c ∈ content, isBracket c = true
  noEscape : ¬ [CodePoint.ofChar '\\', openingBracket] <:+: text
  noMention : ∀ name, colon :: (name ++ [colon]) <:+: text →
    (∀ c ∈ name, isMentionCharacter c = true) → mentioned? name = none

/-! ## Reading -/

theorem isBracket_of_isTagStart {c : CodePoint} (starts : isTagStart c = true) :
    isBracket c = false := by
  rw [← Bool.not_eq_true]
  intro bracket
  have noStart : ∀ mark ∈ [CodePoint.ofChar '[', ']'], isTagStart mark = false := by decide
  simp only [isBracket, Bool.or_eq_true, decide_eq_true_eq] at bracket
  rcases bracket with rfl | rfl
  · rw [noStart _ (by simp)] at starts
    cases starts
  · rw [noStart _ (by simp)] at starts
    cases starts

/-- A tag goes up to the first bracket, which is a closing one. -/
theorem readTag?_eq_some_iff {text content rest : Text} :
    readTag? text = some (content, rest) ↔
      text = content ++ closingBracket :: rest ∧ (∃ c ∈ content.head?, isTagStart c = true) ∧
        ∀ c ∈ content, isBracket c = false := by
  unfold readTag?
  constructor
  · intro read
    split at read
    case isFalse => cases read
    case isTrue startsTag =>
      obtain ⟨start, isHead, starts⟩ := (Option.any_eq_true _ _).1 startsTag
      obtain ⟨more, rfl⟩ := List.head?_eq_some_iff.1 isHead
      split at read
      case h_1 => cases read
      case h_2 c after dropped =>
        split at read
        case isFalse => cases read
        case isTrue isClosing =>
          cases read
          refine ⟨?_, ⟨start, ?_, starts⟩, fun c member => ?_⟩
          · rw [closingBracket, ← isClosing, ← dropped, List.takeWhile_append_dropWhile]
          · simp [isBracket_of_isTagStart starts]
          · simpa using List.all_eq_true.1 List.all_takeWhile c member
  · rintro ⟨rfl, ⟨start, isHead, starts⟩, noBrackets⟩
    obtain ⟨more, rfl⟩ := List.head?_eq_some_iff.1 isHead
    obtain ⟨taken, dropped⟩ := @Text.takeWhile_dropWhile_append (fun c => !isBracket c)
      (start :: more) (closingBracket :: rest)
      (fun c member => by rw [noBrackets c member]; rfl) fun c isHead => by cases isHead; decide
    have startsTag : ((start :: more) ++ closingBracket :: rest).head?.any isTagStart = true :=
      starts
    rw [if_pos startsTag, dropped, taken]
    rfl

theorem readMention?_eq_some_iff {text name rest : Text} :
    readMention? text = some (name, rest) ↔
      text = name ++ colon :: rest ∧ ∀ c ∈ name, isMentionCharacter c = true := by
  unfold readMention?
  constructor
  · intro read
    split at read
    case h_1 => cases read
    case h_2 c after dropped =>
      split at read
      case isTrue isColon =>
        cases read
        refine ⟨?_, fun c member => List.all_eq_true.1 List.all_takeWhile c member⟩
        rw [← isColon, ← dropped, List.takeWhile_append_dropWhile]
      case isFalse => cases read
  · rintro ⟨rfl, named⟩
    obtain ⟨taken, dropped⟩ := @Text.takeWhile_dropWhile_append _ _ (colon :: rest) named
      fun c isHead => by cases isHead; decide
    rw [dropped, taken]
    rfl

/-! ## Decision -/

/-- No markup begins at the front of a text. -/
def BeginsUnmarked (text : Text) : Prop :=
  (text.head? = some openingBracket → readTag? text.tail = none) ∧
    ¬ [CodePoint.ofChar '\\', openingBracket] <+: text ∧
    (text.head? = some colon →
      ((readMention? text.tail).bind fun read => mentioned? read.1) = none)

instance (text : Text) : Decidable (BeginsUnmarked text) := by
  unfold BeginsUnmarked
  infer_instance

theorem BeginsUnmarked.of_isUnmarked {text ending : Text} (unmarked : IsUnmarked text)
    (isEnding : ending <:+ text) : BeginsUnmarked ending := by
  have inText : ∀ {part : Text}, part <+: ending → part <:+: text := fun isPrefix =>
    List.infix_iff_prefix_suffix.2 ⟨ending, isPrefix, isEnding⟩
  refine ⟨fun isBracket => ?_, fun escape => unmarked.noEscape (inText escape), fun isColon => ?_⟩
  · obtain ⟨behind, rfl⟩ := List.head?_eq_some_iff.1 isBracket
    rw [Option.eq_none_iff_forall_ne_some]
    rintro ⟨content, rest⟩ read
    obtain ⟨isBehind, starts, noBrackets⟩ := readTag?_eq_some_iff.1 read
    have isTag : openingBracket :: (content ++ [closingBracket]) <+: openingBracket :: behind := by
      rw [List.tail_cons] at isBehind
      exact ⟨rest, by simp [isBehind]⟩
    obtain ⟨c, member, bracket⟩ := unmarked.noTag content (inText isTag) starts
    rw [noBrackets c member] at bracket
    cases bracket
  · obtain ⟨behind, rfl⟩ := List.head?_eq_some_iff.1 isColon
    rw [Option.bind_eq_none_iff]
    rintro ⟨name, rest⟩ read
    obtain ⟨isBehind, named⟩ := readMention?_eq_some_iff.1 read
    have isMention : colon :: (name ++ [colon]) <+: colon :: behind := by
      rw [List.tail_cons] at isBehind
      exact ⟨rest, by simp [isBehind]⟩
    exact unmarked.noMention name (inText isMention) named

/-- There is no markup in a text if none begins anywhere. -/
theorem isUnmarked_iff {text : Text} :
    IsUnmarked text ↔ ∀ ending ∈ text.tails, BeginsUnmarked ending := by
  constructor
  · exact fun unmarked ending member => .of_isUnmarked unmarked ((List.mem_tails _ _).1 member)
  intro begins
  refine ⟨fun content isTag starts => ?_, fun escape => ?_, fun name isMention named => ?_⟩
  · obtain ⟨_, ⟨rest, rfl⟩, isEnding⟩ := List.infix_iff_prefix_suffix.1 isTag
    by_contra noBrackets
    have read : readTag? (content ++ [closingBracket] ++ rest) = some (content, rest) := by
      refine readTag?_eq_some_iff.2 ⟨by simp, starts, fun c member => ?_⟩
      rw [← Bool.not_eq_true]
      exact fun bracket => noBrackets ⟨c, member, bracket⟩
    have none := (begins _ ((List.mem_tails _ _).2 isEnding)).1 rfl
    rw [List.cons_append, List.tail_cons, read] at none
    cases none
  · obtain ⟨ending, isPrefix, isEnding⟩ := List.infix_iff_prefix_suffix.1 escape
    exact (begins _ ((List.mem_tails _ _).2 isEnding)).2.1 isPrefix
  · obtain ⟨_, ⟨rest, rfl⟩, isEnding⟩ := List.infix_iff_prefix_suffix.1 isMention
    have read : readMention? (name ++ [colon] ++ rest) = some (name, rest) :=
      readMention?_eq_some_iff.2 ⟨by simp, named⟩
    have none := (begins _ ((List.mem_tails _ _).2 isEnding)).2.2 rfl
    rwa [List.cons_append, List.tail_cons, read] at none

instance (text : Text) : Decidable (IsUnmarked text) := decidable_of_iff' _ isUnmarked_iff

/-! ## Printing -/

theorem IsUnmarked.of_suffix {text ending : Text} (unmarked : IsUnmarked text)
    (isEnding : ending <:+ text) : IsUnmarked ending :=
  isUnmarked_iff.2 fun _ member =>
    .of_isUnmarked unmarked (((List.mem_tails _ _).1 member).trans isEnding)

theorem readEscapedTag?_of_isUnmarked {text : Text} (unmarked : IsUnmarked text) :
    readEscapedTag? text = none := by
  unfold readEscapedTag?
  have isEnding := List.dropWhile_suffix (· = CodePoint.ofChar '\\') (l := text)
  split
  case h_1 => rfl
  case h_2 c rest dropped =>
    rw [dropped] at isEnding
    split
    case isTrue isBracket =>
      have none := (BeginsUnmarked.of_isUnmarked unmarked isEnding).1 (congrArg some isBracket)
      rw [List.tail_cons] at none
      rw [none]
      rfl
    case isFalse => rfl

theorem unescaped_of_isUnmarked {text : Text} (unmarked : IsUnmarked text) :
    unescaped text = text := by
  fun_induction unescaped text with
  | case1 => rfl
  | case2 => rfl
  | case3 c d rest escape inductionHypothesis =>
      obtain ⟨rfl, rfl⟩ := escape
      exact absurd (List.prefix_append [CodePoint.ofChar '\\', openingBracket] rest).isInfix
        unmarked.noEscape
  | case4 c d rest _ inductionHypothesis =>
      rw [inductionHypothesis (unmarked.of_suffix (List.suffix_cons c _))]

theorem replaceMentions_of_isUnmarked {text : Text} (unmarked : IsUnmarked text) :
    replaceMentions text = text := by
  fun_induction replaceMentions text with
  | case1 => rfl
  | case2 rest noMention inductionHypothesis =>
      rw [inductionHypothesis (unmarked.of_suffix (List.suffix_cons colon _))]
  | case3 rest name after read inductionHypothesis =>
      have unknown := (BeginsUnmarked.of_isUnmarked unmarked List.suffix_rfl).2.2 rfl
      rw [List.tail_cons, read, Option.bind_some] at unknown
      obtain ⟨rfl, _⟩ := readMention?_eq_some_iff.1 read
      have isEnding : after <:+ colon :: (name ++ colon :: after) :=
        ⟨colon :: (name ++ [colon]), by simp⟩
      rw [unknown, inductionHypothesis (unmarked.of_suffix isEnding)]
      simp
  | case4 c rest noColon inductionHypothesis =>
      rw [inductionHypothesis (unmarked.of_suffix (List.suffix_cons c _))]

/-- **Texts without markup.**  A printable text without markup is laid out as it is. -/
theorem printMarkup_of_isUnmarked (width : Nat) {text : Text} (unmarked : IsUnmarked text)
    (printable : text.IsPrintable) : printMarkup width text = .ok (print width text) := by
  have isPrinted := ofMarkup_of_eq_none fun _ isEnding =>
    readEscapedTag?_of_isUnmarked (unmarked.of_suffix isEnding)
  rw [unescaped_of_isUnmarked unmarked, replaceMentions_of_isUnmarked unmarked,
    dropControls_of_isPrintable printable] at isPrinted
  exact printMarkup_of_ofMarkup width isPrinted

end Findings.Terminal
