import Findings.Text.Basic
import Mathlib.Data.List.Lex

/-!
Contract: the order of texts.

Owns: `Text.points`, the numbers of the code points of a text; texts are ordered as these lists are,
so their order is total, and sorting different texts puts them into strictly ascending order.
-/

set_option autoImplicit false

namespace Findings.Text

/-- The numbers of the code points of a text.  Their lexicographic order is the order of texts by
code point. -/
def points (text : Text) : List Nat := text.map CodePoint.val

theorem points_injective : Function.Injective points := by
  apply List.map_injective_iff.2
  intro left right same
  cases left
  cases right
  cases same
  rfl

theorem ble_eq_true_iff (left right : Text) :
    ble left right = true ↔ left.points ≤ right.points := by
  rw [← not_lt]
  unfold points
  fun_induction ble left right with
  | case1 right => simp
  | case2 c left => simp
  | case3 a left b right smaller =>
      rw [List.map_cons, List.map_cons, List.cons_lt_cons_iff]
      exact iff_of_true rfl (by omega)
  | case4 a left b right notSmaller larger =>
      rw [List.map_cons, List.map_cons, List.cons_lt_cons_iff]
      exact iff_of_false Bool.false_ne_true fun notLess => notLess (.inl larger)
  | case5 a left b right notSmaller notLarger inductionHypothesis =>
      have same : a.val = b.val := by omega
      rw [List.map_cons, List.map_cons, List.cons_lt_cons_iff, inductionHypothesis, same]
      simp

theorem ble_trans (left middle right : Text) (first : ble left middle = true)
    (second : ble middle right = true) : ble left right = true := by
  rw [ble_eq_true_iff] at first second ⊢
  exact le_trans first second

theorem ble_total (left right : Text) : (ble left right || ble right left) = true := by
  rw [Bool.or_eq_true, ble_eq_true_iff, ble_eq_true_iff]
  exact le_total _ _

theorem ble_antisymm {left right : Text} (first : ble left right = true)
    (second : ble right left = true) : left = right := by
  rw [ble_eq_true_iff] at first second
  exact points_injective (le_antisymm first second)

/-! ## Sorted texts -/

/-- Different texts, once they are sorted, ascend strictly. -/
theorem ascending_mergeSort {texts : List Text} (different : texts.Nodup) :
    (texts.mergeSort ble).Pairwise fun left right => left.points < right.points := by
  have sorted := List.pairwise_mergeSort ble_trans ble_total texts
  have stillDifferent : (texts.mergeSort ble).Nodup :=
    (List.mergeSort_perm texts ble).nodup_iff.2 different
  refine (sorted.and stillDifferent).imp ?_
  rintro left right ⟨inOrder, notSame⟩
  rw [ble_eq_true_iff] at inOrder
  exact lt_of_le_of_ne inOrder fun samePoints => notSame (points_injective samePoints)

/-- The same texts are sorted into the same list. -/
theorem mergeSort_eq_of_perm {texts others : List Text} (perm : texts.Perm others) :
    texts.mergeSort ble = others.mergeSort ble := by
  have samePerm : (texts.mergeSort ble).Perm (others.mergeSort ble) :=
    (List.mergeSort_perm texts ble).trans (perm.trans (List.mergeSort_perm others ble).symm)
  exact List.Perm.eq_of_pairwise (fun _ _ _ _ => ble_antisymm)
    (List.pairwise_mergeSort ble_trans ble_total texts)
    (List.pairwise_mergeSort ble_trans ble_total others) samePerm

end Findings.Text
