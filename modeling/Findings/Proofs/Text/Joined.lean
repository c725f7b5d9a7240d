import Findings.Proofs.Text.CodePoint
import Mathlib.Data.List.Chain

/-!
Contract: texts in which every surrogate pair is joined.

Owns:
- `Text.IsJoined`: no high surrogate stands directly in front of a low one;
- texts without surrogates, which are joined and stay so next to any joined text;
- what keeps texts joined: joining them with a separator, splitting them, replacing characters.
-/

set_option autoImplicit false

namespace Findings

namespace Text

/-- Every surrogate pair is joined: no high surrogate stands directly in front of a low one. -/
def IsJoined (text : Text) : Prop := List.IsChain (fun left right => ¬ left.FormsPair right) text

instance (text : Text) : Decidable text.IsJoined := by
  unfold IsJoined
  infer_instance

/-- No code point is a surrogate. -/
def IsSurrogateFree (text : Text) : Prop := ∀ c ∈ text, c.isSurrogate = false

/-! ## Joined texts -/

theorem isJoined_nil : IsJoined [] := .nil

theorem isJoined_cons_iff {c : CodePoint} {text : Text} :
    IsJoined (c :: text) ↔ (∀ next ∈ text.head?, ¬ c.FormsPair next) ∧ text.IsJoined :=
  List.isChain_cons

theorem isJoined_append_iff {left right : Text} :
    IsJoined (left ++ right) ↔ left.IsJoined ∧ right.IsJoined ∧
      ∀ last ∈ left.getLast?, ∀ next ∈ right.head?, ¬ last.FormsPair next :=
  List.isChain_append

theorem IsJoined.of_infix {text part : Text} (joined : text.IsJoined) (inside : part <:+: text) :
    part.IsJoined :=
  List.IsChain.infix joined inside

/-- Replacing code points keeps a text joined if it makes no surrogates. -/
theorem IsJoined.map {text : Text} (joined : text.IsJoined) {f : CodePoint → CodePoint}
    (changes : ∀ c, f c = c ∨ (f c).isSurrogate = false) : IsJoined (text.map f) := by
  unfold IsJoined at joined ⊢
  rw [List.isChain_map]
  refine List.IsChain.imp ?_ joined
  intro left right apart pair
  rcases changes left with leftSame | leftFree
  · rcases changes right with rightSame | rightFree
    · rw [leftSame, rightSame] at pair
      exact apart pair
    · exact CodePoint.not_isLowSurrogate rightFree pair.2
  · exact CodePoint.not_isHighSurrogate leftFree pair.1

/-! ## Texts without surrogates -/

theorem IsSurrogateFree.append {left right : Text} (leftFree : left.IsSurrogateFree)
    (rightFree : right.IsSurrogateFree) : IsSurrogateFree (left ++ right) := by
  intro c member
  rcases List.mem_append.1 member with inLeft | inRight
  · exact leftFree c inLeft
  · exact rightFree c inRight

theorem isSurrogateFree_ofString (s : String) : IsSurrogateFree (ofString s) := by
  intro c member
  obtain ⟨char, _, isChar⟩ := List.mem_map.1 member
  rw [← isChar]
  exact CodePoint.isSurrogate_ofChar char

/-- A text without surrogates in front of a joined one. -/
theorem IsSurrogateFree.append_isJoined {left right : Text} (free : left.IsSurrogateFree)
    (joined : right.IsJoined) : IsJoined (left ++ right) := by
  induction left with
  | nil => exact joined
  | cons c left inductionHypothesis =>
      refine isJoined_cons_iff.2 ⟨?_, inductionHypothesis fun other member =>
        free other (List.mem_cons_of_mem _ member)⟩
      intro next _ pair
      exact CodePoint.not_isHighSurrogate (free c (List.mem_cons_self ..)) pair.1

theorem IsSurrogateFree.isJoined {text : Text} (free : text.IsSurrogateFree) : text.IsJoined := by
  have whole := free.append_isJoined isJoined_nil
  rwa [List.append_nil] at whole

theorem isJoined_ofString (s : String) : IsJoined (ofString s) :=
  (isSurrogateFree_ofString s).isJoined

/-- Two joined texts with a code point between them that is no surrogate. -/
theorem IsJoined.append_cons {left right : Text} (leftJoined : left.IsJoined)
    (rightJoined : right.IsJoined) {c : CodePoint} (free : c.isSurrogate = false) :
    IsJoined (left ++ c :: right) := by
  have separator : IsSurrogateFree [c] := by
    intro other member
    rwa [List.mem_singleton.1 member]
  have cutOff : ∀ last ∈ left.getLast?, ∀ next ∈ (c :: right).head?, ¬ last.FormsPair next := by
    intro last _ next isNext pair
    cases isNext
    exact CodePoint.not_isLowSurrogate free pair.2
  exact isJoined_append_iff.2 ⟨leftJoined, separator.append_isJoined rightJoined, cutOff⟩

/-- Two joined texts with a text between them that holds no surrogate. -/
theorem IsJoined.append_append {left separator right : Text} (leftJoined : left.IsJoined)
    (rightJoined : right.IsJoined) (free : separator.IsSurrogateFree) (nonempty : separator ≠ []) :
    IsJoined (left ++ separator ++ right) := by
  cases separator with
  | nil => exact absurd rfl nonempty
  | cons c separator =>
      obtain ⟨firstFree, othersFree⟩ := List.forall_mem_cons.1 free
      rw [List.append_assoc]
      exact leftJoined.append_cons
        (IsSurrogateFree.append_isJoined othersFree rightJoined) firstFree

/-! ## Joining and splitting with a separator -/

theorem isJoined_join {separator : CodePoint} (free : separator.isSurrogate = false)
    {parts : List Text} (joined : ∀ part ∈ parts, part.IsJoined) :
    IsJoined (join [separator] parts) := by
  unfold join
  induction parts with
  | nil => exact isJoined_nil
  | cons first rest inductionHypothesis =>
      have restJoined := inductionHypothesis fun part member =>
        joined part (List.mem_cons_of_mem _ member)
      have firstJoined := joined first (List.mem_cons_self ..)
      cases rest with
      | nil =>
          rw [List.intercalate_singleton]
          exact firstJoined
      | cons second others =>
          rw [List.intercalate_cons_cons, List.append_assoc]
          exact firstJoined.append_cons restJoined free

/-- The parts of a text stand in the text, the first one at its front. -/
theorem splitOn_infix (separator : CodePoint) (text : Text) :
    ∃ first others, splitOn separator text = first :: others ∧ first <+: text ∧
      ∀ part ∈ others, part <:+: text := by
  induction text with
  | nil => exact ⟨[], [], rfl, List.prefix_rfl, fun part member => by cases member⟩
  | cons c text inductionHypothesis =>
      obtain ⟨first, others, isSplit, atFront, inside⟩ := inductionHypothesis
      have shifted : splitOn separator (c :: text) =
          if c = separator then [] :: first :: others else (c :: first) :: others := by
        unfold splitOn at isSplit ⊢
        rw [List.foldr_cons, isSplit]
      rw [shifted]
      split
      · refine ⟨[], first :: others, rfl, List.nil_prefix, ?_⟩
        intro part member
        rcases List.mem_cons.1 member with isFirst | isOther
        · rw [isFirst]
          exact List.infix_cons atFront.isInfix
        · exact List.infix_cons (inside part isOther)
      · refine ⟨c :: first, others, rfl, List.cons_prefix_cons.2 ⟨rfl, atFront⟩, ?_⟩
        intro part member
        exact List.infix_cons (inside part member)

theorem infix_of_mem_splitOn {separator : CodePoint} {text part : Text}
    (member : part ∈ splitOn separator text) : part <:+: text := by
  obtain ⟨first, others, isSplit, atFront, inside⟩ := splitOn_infix separator text
  rw [isSplit] at member
  rcases List.mem_cons.1 member with isFirst | isOther
  · rw [isFirst]
    exact atFront.isInfix
  · exact inside part isOther

end Text

end Findings
