import Findings.Proofs.Text.CodePoint

/-!
Contract: numerals and the numbers that they denote.

Owns: decimal numerals as digits without a leading zero, and reading them back.
-/

set_option autoImplicit false

namespace Findings

namespace Text

/-! ## Decimal numerals -/

theorem decimalBefore_eq_append (n : Nat) (after : Text) :
    decimalBefore n after = ofNat n ++ after := by
  induction n using Nat.strongRecOn generalizing after with
  | ind n inductionHypothesis =>
      have unfolded : ∀ rest, decimalBefore n rest =
          if n < 10 then CodePoint.decimalDigit n :: rest
          else decimalBefore (n / 10) (CodePoint.decimalDigit n :: rest) := by
        intro rest
        rw [decimalBefore]
      unfold ofNat
      rw [unfolded after, unfolded []]
      split
      · rfl
      · rw [inductionHypothesis (n / 10) (by omega), inductionHypothesis (n / 10) (by omega),
          List.append_assoc]
        rfl

theorem ofNat_of_lt {n : Nat} (small : n < 10) : ofNat n = [CodePoint.decimalDigit n] := by
  unfold ofNat
  rw [decimalBefore, if_pos small]

theorem ofNat_of_le {n : Nat} (large : 10 ≤ n) :
    ofNat n = ofNat (n / 10) ++ [CodePoint.decimalDigit n] := by
  rw [← decimalBefore_eq_append]
  unfold ofNat
  rw [decimalBefore, if_neg (by omega)]

theorem isDigit_of_mem_ofNat {n : Nat} {c : CodePoint} (member : c ∈ ofNat n) :
    c.isDigit = true := by
  induction n using Nat.strongRecOn with
  | ind n inductionHypothesis =>
      by_cases small : n < 10
      · rw [ofNat_of_lt small, List.mem_singleton] at member
        rw [member]
        exact CodePoint.isDigit_decimalDigit n
      · rw [ofNat_of_le (by omega), List.mem_append, List.mem_singleton] at member
        rcases member with inFront | isLast
        · exact inductionHypothesis (n / 10) (by omega) inFront
        · rw [isLast]
          exact CodePoint.isDigit_decimalDigit n

theorem natValue_concat (digits : Text) (c : CodePoint) :
    natValue (digits ++ [c]) = natValue digits * 10 + c.digitValue := by
  unfold natValue
  rw [List.foldl_append]
  rfl

/-- A numeral denotes its number. -/
theorem natValue_ofNat (n : Nat) : natValue (ofNat n) = n := by
  induction n using Nat.strongRecOn with
  | ind n inductionHypothesis =>
      by_cases small : n < 10
      · have denotes := natValue_concat [] (CodePoint.decimalDigit n)
        rw [List.nil_append, CodePoint.digitValue_decimalDigit] at denotes
        rw [ofNat_of_lt small, denotes]
        simp only [natValue, List.foldl_nil]
        omega
      · rw [ofNat_of_le (by omega), natValue_concat, inductionHypothesis (n / 10) (by omega),
          CodePoint.digitValue_decimalDigit]
        omega

/-- A numeral begins with zero only if it is the numeral of zero. -/
theorem ofNat_eq_cons (n : Nat) :
    ∃ first rest, ofNat n = first :: rest ∧ (first = CodePoint.ofChar '0' → rest = []) := by
  induction n using Nat.strongRecOn with
  | ind n inductionHypothesis =>
      by_cases small : n < 10
      · exact ⟨_, [], ofNat_of_lt small, fun _ => rfl⟩
      · obtain ⟨first, rest, isFront, zeroOnly⟩ := inductionHypothesis (n / 10) (by omega)
        refine ⟨first, rest ++ [CodePoint.decimalDigit n], ?_, ?_⟩
        · rw [ofNat_of_le (by omega), isFront]
          rfl
        · intro isZero
          -- The front would be the numeral of zero, but it stands for at least one.
          exfalso
          have denotes := natValue_ofNat (n / 10)
          rw [isFront, zeroOnly isZero, isZero] at denotes
          have zero : natValue [CodePoint.ofChar '0'] = 0 := by decide
          omega

end Text

end Findings
