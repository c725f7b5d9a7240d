import Findings.Json.Spelling
import Findings.Proofs.Json.Joined
import Findings.Proofs.Json.Printed

/-!
Contract: spelled values hold no unjoined surrogate pairs.

Owns:
- quoted text, which shows every surrogate by number;
- `IsJoined.spelling`: a value without unjoined surrogate pairs is spelled without any.
-/

set_option autoImplicit false

namespace Findings

theorem CodePoint.isSurrogate_of_isPrintable {c : CodePoint} (printable : c.isPrintable = true) :
    c.isSurrogate = false := by
  rw [← Bool.not_eq_true]
  intro surrogate
  have range := within_eq_true_iff.1 surrogate
  have noAscii : c.within 0x20 0x7E = false := within_eq_false_iff.2 (by omega)
  have listed : inRanges unprintableRanges c.val = true := by
    have member : (0xD7FC, 0xF8FF) ∈ unprintableRanges := by decide
    refine List.any_eq_true.2 ⟨_, member, ?_⟩
    simp only [Bool.and_eq_true, decide_eq_true_eq]
    omega
  unfold isPrintable at printable
  rw [noAscii, listed] at printable
  cases printable

namespace Text

theorem isSurrogateFree_singleton {c : CodePoint} (free : c.isSurrogate = false) :
    IsSurrogateFree [c] := by
  intro other member
  rwa [List.mem_singleton.1 member]

theorem isSurrogateFree_flatMap {text : Text} {f : CodePoint → Text}
    (free : ∀ c ∈ text, (f c).IsSurrogateFree) : IsSurrogateFree (text.flatMap f) := by
  intro c member
  obtain ⟨source, inText, inImage⟩ := List.mem_flatMap.1 member
  exact free source inText c inImage

theorem isSurrogate_quoteFor (text : Text) : (quoteFor text).isSurrogate = false := by
  unfold quoteFor
  split <;> exact CodePoint.isSurrogate_ofChar _

/-- A code point inside quotes is spelled without surrogates. -/
theorem isSurrogateFree_quotedPoint {quote : CodePoint} (quoteFree : quote.isSurrogate = false)
    (c : CodePoint) : (quotedPoint quote c).IsSurrogateFree := by
  have numbered : ∀ (mark : String) (width : Nat),
      IsSurrogateFree (ofString mark ++ hexadecimal width c.val) := fun mark width =>
    (isSurrogateFree_ofString mark).append (isPrinted_hexadecimal width c.val).isSurrogateFree
  unfold quotedPoint
  split
  · rename_i escaped
    have free : c.isSurrogate = false := by
      rw [Bool.or_eq_true, decide_eq_true_eq, decide_eq_true_eq] at escaped
      rcases escaped with isQuote | isBackslash
      · rw [isQuote]
        exact quoteFree
      · rw [isBackslash]
        exact CodePoint.isSurrogate_ofChar _
    exact (isSurrogateFree_singleton (CodePoint.isSurrogate_ofChar '\\')).append
      (isSurrogateFree_singleton free)
  split
  · exact isSurrogateFree_ofString _
  split
  · exact isSurrogateFree_ofString _
  split
  · exact isSurrogateFree_ofString _
  split
  · rename_i printable
    exact isSurrogateFree_singleton (CodePoint.isSurrogate_of_isPrintable printable)
  split
  · exact numbered _ _
  split
  · exact numbered _ _
  · exact numbered _ _

theorem isSurrogateFree_quoted (text : Text) : (quoted text).IsSurrogateFree := by
  have quoteFree := isSurrogate_quoteFor text
  have quote := isSurrogateFree_singleton quoteFree
  unfold quoted
  exact (quote.append (isSurrogateFree_flatMap fun c _ =>
    isSurrogateFree_quotedPoint quoteFree c)).append quote

end Text

namespace Json

theorem isSurrogateFree_spelledReal (value : Binary64) : (spelledReal value).IsSurrogateFree := by
  unfold spelledReal
  split
  · exact Text.isSurrogateFree_ofString _
  · exact Text.isSurrogateFree_ofString _
  · exact Text.isSurrogateFree_ofString _
  · exact (Binary64.isPrinted_finiteText _ _ _).isSurrogateFree

mutual

/-- The spelling of a value inside a container shows no surrogates. -/
theorem isSurrogateFree_spelledInside : ∀ value : Json, (spelledInside value).IsSurrogateFree
  | .null => by
      rw [spelledInside]
      exact Text.isSurrogateFree_ofString _
  | .bool true => by
      rw [spelledInside]
      exact Text.isSurrogateFree_ofString _
  | .bool false => by
      rw [spelledInside]
      exact Text.isSurrogateFree_ofString _
  | .int value => by
      rw [spelledInside]
      exact (Text.isPrinted_ofInt value).isSurrogateFree
  | .real value => by
      rw [spelledInside]
      exact isSurrogateFree_spelledReal value
  | .text value => by
      rw [spelledInside]
      exact Text.isSurrogateFree_quoted value
  | .array [] => by
      rw [spelledInside]
      exact Text.isSurrogateFree_ofString _
  | .array (first :: items) => by
      rw [spelledInside]
      exact (Text.isSurrogateFree_ofString _).append ((isSurrogateFree_spelledInside first).append
        ((isSurrogateFree_spelledItems items).append (Text.isSurrogateFree_ofString _)))
  | .object [] => by
      rw [spelledInside]
      exact Text.isSurrogateFree_ofString _
  | .object ((name, first) :: members) => by
      rw [spelledInside]
      exact (Text.isSurrogateFree_ofString _).append ((Text.isSurrogateFree_quoted name).append
        ((Text.isSurrogateFree_ofString _).append ((isSurrogateFree_spelledInside first).append
          ((isSurrogateFree_spelledMembers members).append (Text.isSurrogateFree_ofString _)))))

theorem isSurrogateFree_spelledItems :
    ∀ items : List Json, (spelledItems items).IsSurrogateFree
  | [] => by
      rw [spelledItems]
      exact Text.isSurrogateFree_ofString ""
  | item :: items => by
      rw [spelledItems]
      exact (Text.isSurrogateFree_ofString _).append ((isSurrogateFree_spelledInside item).append
        (isSurrogateFree_spelledItems items))

theorem isSurrogateFree_spelledMembers :
    ∀ members : List (Text × Json), (spelledMembers members).IsSurrogateFree
  | [] => by
      rw [spelledMembers]
      exact Text.isSurrogateFree_ofString ""
  | (name, value) :: members => by
      rw [spelledMembers]
      exact (Text.isSurrogateFree_ofString _).append ((Text.isSurrogateFree_quoted name).append
        ((Text.isSurrogateFree_ofString _).append ((isSurrogateFree_spelledInside value).append
          (isSurrogateFree_spelledMembers members))))

end

/-- **A joined value is spelled as a joined text.** -/
theorem IsJoined.spelling {value : Json} (joined : value.IsJoined) : value.spelling.IsJoined := by
  cases value with
  | text text => exact isJoined_text_iff.1 joined
  | _ => exact (isSurrogateFree_spelledInside _).isJoined

end Json

end Findings
