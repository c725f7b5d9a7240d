import Findings.Text.Blank

/-!
Contract: the blanks of a text.

Owns:
- `Text.IsTrimmed`, a text that neither begins nor ends with a blank, which every text is without the
  blanks around it;
- `Text.visible`, what is left of a text without all its blanks.
-/

set_option autoImplicit false

namespace Findings.Text

/-! ## Blanks around a text -/

/-- A text that is not empty, and begins and ends with something to see. -/
structure IsTrimmed (text : Text) : Prop where
  nonempty : text ≠ []
  begins : ∀ c ∈ text.head?, c.isBlank = false
  ends : ∀ c ∈ text.getLast?, c.isBlank = false

instance (text : Text) : Decidable text.IsTrimmed :=
  decidable_of_iff
    (text ≠ [] ∧ (∀ c ∈ text.head?, c.isBlank = false) ∧ ∀ c ∈ text.getLast?, c.isBlank = false)
    ⟨fun ⟨nonempty, begins, ends⟩ => ⟨nonempty, begins, ends⟩,
      fun ⟨nonempty, begins, ends⟩ => ⟨nonempty, begins, ends⟩⟩

/-- What is dropped at the end of a text is of the class, and what is left does not end with it. -/
theorem exists_append_trimEnd (inClass : CodePoint → Bool) (text : Text) :
    ∃ dropped : Text, text = trimEnd inClass text ++ dropped ∧
      (∀ c ∈ dropped, inClass c = true) ∧
        ∀ c ∈ (trimEnd inClass text).getLast?, inClass c = false := by
  unfold trimEnd
  refine ⟨(text.reverse.takeWhile inClass).reverse, ?_, ?_, ?_⟩
  · rw [← List.reverse_append, List.takeWhile_append_dropWhile, List.reverse_reverse]
  · intro c member
    exact List.all_eq_true.1 List.all_takeWhile c (List.mem_reverse.1 member)
  · intro c isLast
    rw [List.getLast?_reverse] at isLast
    have stops := List.head?_dropWhile_not inClass text.reverse
    rw [Option.mem_def.1 isLast] at stops
    simpa using stops

theorem isTrimmed_trimBlank {text : Text} (nonempty : text.trimBlank ≠ []) :
    text.trimBlank.IsTrimmed := by
  obtain ⟨dropped, isWhole, _, ends⟩ :=
    exists_append_trimEnd CodePoint.isBlank (text.dropWhile CodePoint.isBlank)
  refine ⟨nonempty, ?_, ends⟩
  intro c isHead
  have beginsWith : (text.dropWhile CodePoint.isBlank).head? = some c := by
    have inTrimmed : (trimEnd CodePoint.isBlank (text.dropWhile CodePoint.isBlank)).head? = some c :=
      isHead
    rw [isWhole, List.head?_append, inTrimmed]
    rfl
  have stops := List.head?_dropWhile_not CodePoint.isBlank text
  rw [beginsWith] at stops
  simpa using stops

/-! ## All blanks of a text -/

/-- What is to be seen of a text. -/
def visible (text : Text) : Text := text.filter fun c => !c.isBlank

theorem filter_eq_nil_of_hidden {text : Text} {shows : CodePoint → Bool}
    (hidden : ∀ c ∈ text, shows c = false) : text.filter shows = [] := by
  rw [List.filter_eq_nil_iff]
  intro c member
  simp [hidden c member]

/-- A part of a text with nothing to show behind it shows all of the text. -/
theorem filter_of_prefix {front behind part : Text} {shows : CodePoint → Bool}
    (hidden : ∀ c ∈ behind, shows c = false) (isPart : part <+: front ++ behind)
    (whole : front.length ≤ part.length) : part.filter shows = front.filter shows := by
  obtain ⟨rest, isWhole⟩ := isPart
  obtain ⟨between, rfl⟩ : front <+: part :=
    List.prefix_of_prefix_length_le (List.prefix_append front behind) ⟨rest, isWhole⟩ whole
  rw [List.append_assoc, List.append_cancel_left_eq] at isWhole
  have betweenHidden : ∀ c ∈ between, shows c = false := by
    intro c member
    exact hidden c (isWhole ▸ List.mem_append_left rest member)
  rw [List.filter_append, filter_eq_nil_of_hidden betweenHidden, List.append_nil]

end Findings.Text
