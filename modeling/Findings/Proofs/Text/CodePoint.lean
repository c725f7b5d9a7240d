import Findings.Text.Basic

/-!
Contract: single code points.

Owns: classes of code points as ranges of their values; surrogates, which no character is; digits
and their values; literals, which are equal only when they are spelled the same; where a class of code
points ends in a text.
-/

set_option autoImplicit false

namespace Findings

namespace CodePoint

theorem within_eq_true_iff {low high : Nat} {c : CodePoint} :
    c.within low high = true ↔ low ≤ c.val ∧ c.val ≤ high := by
  unfold within
  rw [Bool.and_eq_true, decide_eq_true_eq, decide_eq_true_eq]

theorem within_eq_false_iff {low high : Nat} {c : CodePoint} :
    c.within low high = false ↔ c.val < low ∨ high < c.val := by
  rw [← Bool.not_eq_true, within_eq_true_iff]
  omega

theorem ofChar_injective : Function.Injective ofChar := by
  intro left right equal
  apply Char.ext
  apply UInt32.toNat_inj.1
  exact congrArg val equal

/-! ## Surrogates -/

/-- Two code points that are the halves of one code point. -/
def FormsPair (high low : CodePoint) : Prop :=
  high.isHighSurrogate = true ∧ low.isLowSurrogate = true

instance (high low : CodePoint) : Decidable (high.FormsPair low) := by
  unfold FormsPair
  infer_instance

theorem not_isHighSurrogate {c : CodePoint} (free : c.isSurrogate = false) :
    ¬ c.isHighSurrogate = true := by
  intro high
  have range := within_eq_true_iff.1 high
  have outside := within_eq_false_iff.1 free
  omega

theorem not_isLowSurrogate {c : CodePoint} (free : c.isSurrogate = false) :
    ¬ c.isLowSurrogate = true := by
  intro low
  have range := within_eq_true_iff.1 low
  have outside := within_eq_false_iff.1 free
  omega

theorem isSurrogate_ofChar (c : Char) : (ofChar c).isSurrogate = false := by
  have range : (ofChar c).val < 0xD800 ∨ 0xDFFF < (ofChar c).val := c.valid.imp_right And.left
  exact within_eq_false_iff.2 (by omega)

/-! ## Digits -/

theorem ne_of_isDigit {c other : CodePoint} (digit : c.isDigit = true)
    (noDigit : other.isDigit = false) : c ≠ other := by
  intro same
  rw [← same, digit] at noDigit
  cases noDigit

theorem isDigit_decimalDigit (n : Nat) : (decimalDigit n).isDigit = true := by
  have value : (decimalDigit n).val = 0x30 + n % 10 := rfl
  exact within_eq_true_iff.2 (by omega)

theorem digitValue_decimalDigit (n : Nat) : (decimalDigit n).digitValue = n % 10 := by
  have value : (decimalDigit n).val = 0x30 + n % 10 := rfl
  unfold digitValue
  omega

theorem hexDigit_val (n : Nat) :
    (hexDigit n).val = if n % 16 < 10 then 0x30 + n % 16 else 0x61 + (n % 16 - 10) := by
  unfold hexDigit
  split <;> rfl

theorem hexValue?_hexDigit (n : Nat) : (hexDigit n).hexValue? = some (n % 16) := by
  have value := hexDigit_val n
  unfold hexValue?
  by_cases small : n % 16 < 10
  · rw [if_pos small] at value
    have decimal : (hexDigit n).isDigit = true := within_eq_true_iff.2 (by omega)
    rw [if_pos decimal, value]
    exact congrArg some (by omega)
  · rw [if_neg small] at value
    have notDecimal : (hexDigit n).isDigit = false := within_eq_false_iff.2 (by omega)
    have letter : (hexDigit n).within 0x61 0x66 = true := within_eq_true_iff.2 (by omega)
    rw [notDecimal, if_neg Bool.false_ne_true, if_pos letter, value]
    exact congrArg some (by omega)

end CodePoint

/-! ## Literals -/

@[simp] theorem Text.ofString_inj {left right : String} :
    Text.ofString left = Text.ofString right ↔ left = right := by
  unfold Text.ofString
  rw [List.map_inj_right fun _ _ equal => CodePoint.ofChar_injective equal]
  exact String.toList_inj

/-! ## Classes in a text -/

/-- A text up to the first code point outside of a class, and from there on. -/
theorem Text.takeWhile_dropWhile_append {inClass : CodePoint → Bool} {front rest : Text}
    (inside : ∀ c ∈ front, inClass c = true) (ends : ∀ c ∈ rest.head?, inClass c = false) :
    (front ++ rest).takeWhile inClass = front ∧ (front ++ rest).dropWhile inClass = rest := by
  rw [List.takeWhile_append_of_pos inside, List.dropWhile_append_of_pos inside]
  cases rest with
  | nil => simp
  | cons c rest =>
      have outside : ¬ inClass c = true := by
        rw [ends c rfl]
        exact Bool.false_ne_true
      rw [List.takeWhile_cons_of_neg outside, List.dropWhile_cons_of_neg outside, List.append_nil]
      exact ⟨rfl, rfl⟩

end Findings
