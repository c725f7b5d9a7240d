import Findings.Proofs.Entries
import Findings.Proofs.FirstAppearance
import Findings.Proofs.Text.Order
import Findings.Summary.View

/-!
Contract: grouping by key.

Owns:
- `itemsUnder`, the items with a key, in their order, and `sortedKeys`, the different keys in
  ascending order;
- `groupSorted_eq`: the groups of a list are the sorted keys, each with its items;
- every item is in one group (`flatMap_itemsUnder_perm`), and the order of items with different keys
  does not matter (`groupSorted_congr`).

The groups are filled one item after the other; what is kept is that after some items they are the
table of those, in the order in which the keys first came.
-/

set_option autoImplicit false

namespace Findings.Summary

open Findings.FirstAppearance

variable {α : Type}

/-- The items with a key, in their order. -/
def itemsUnder (key : Text) (items : List (Text × α)) : List α :=
  (items.filter fun item => item.1 = key).map Prod.snd

/-- The different keys of a list in ascending order. -/
def sortedKeys (items : List (Text × α)) : List Text :=
  (items.map Prod.fst).eraseDups.mergeSort Text.ble

theorem itemsUnder_concat (key : Text) (items : List (Text × α)) (item : Text × α) :
    itemsUnder key (items ++ [item]) =
      itemsUnder key items ++ if item.1 = key then [item.2] else [] := by
  unfold itemsUnder
  rw [List.filter_append, List.map_append]
  by_cases same : item.1 = key <;> simp [same]

theorem itemsUnder_of_not_mem {key : Text} {items : List (Text × α)}
    (absent : key ∉ items.map Prod.fst) : itemsUnder key items = [] := by
  unfold itemsUnder
  rw [List.map_eq_nil_iff, List.filter_eq_nil_iff]
  intro item member
  rw [decide_eq_true_eq]
  rintro rfl
  exact absent (List.mem_map_of_mem member)

/-! ## The groups of a list -/

/-- One more item goes to the end of the group of its key. -/
theorem addToGroup_tabulate (items : List (Text × α)) (item : Text × α) :
    addToGroup (Entries.tabulate (itemsUnder · items) (items.map Prod.fst).eraseDups) item =
      Entries.tabulate (itemsUnder · (items ++ [item]))
        ((items ++ [item]).map Prod.fst).eraseDups := by
  unfold addToGroup
  rw [List.map_append, List.map_singleton, eraseDups_concat]
  by_cases known : item.1 ∈ items.map Prod.fst
  · have listed : item.1 ∈ (items.map Prod.fst).eraseDups := List.mem_eraseDups.2 known
    rw [if_pos known, Entries.find?_tabulate_of_mem listed, Option.getD_some,
      Entries.insert_tabulate_of_mem (nodup_eraseDups _) listed]
    apply Entries.tabulate_congr
    intro key _
    rw [itemsUnder_concat]
    by_cases same : key = item.1
    · rw [if_pos same, if_pos same.symm, same]
    · rw [if_neg same, if_neg (Ne.symm same), List.append_nil]
  · have absent : item.1 ∉ (Entries.tabulate (itemsUnder · items)
        (items.map Prod.fst).eraseDups).keys := by
      rwa [Entries.keys_tabulate, List.mem_eraseDups]
    have itsGroup : itemsUnder item.1 (items ++ [item]) = [item.2] := by
      rw [itemsUnder_concat, itemsUnder_of_not_mem known, if_pos rfl, List.nil_append]
    have lastGroup : Entries.tabulate (itemsUnder · (items ++ [item])) [item.1] =
        [(item.1, [item.2])] := congrArg (fun group => [(item.1, group)]) itsGroup
    have otherGroups : Entries.tabulate (itemsUnder · items) (items.map Prod.fst).eraseDups =
        Entries.tabulate (itemsUnder · (items ++ [item])) (items.map Prod.fst).eraseDups := by
      apply Entries.tabulate_congr
      intro key member
      have different : item.1 ≠ key := by
        rintro rfl
        exact known (List.mem_eraseDups.1 member)
      rw [itemsUnder_concat, if_neg different, List.append_nil]
    rw [if_neg known, Entries.find?_of_not_mem absent, Entries.insert_of_not_mem absent,
      Entries.tabulate_append, otherGroups, lastGroup]
    rfl

theorem foldl_addToGroup (items : List (Text × α)) :
    items.foldl addToGroup [] =
      Entries.tabulate (itemsUnder · items) (items.map Prod.fst).eraseDups := by
  induction items using List.reverseRecOn with
  | nil => rfl
  | append_singleton items item inductionHypothesis =>
      rw [List.foldl_append, inductionHypothesis]
      exact addToGroup_tabulate items item

/-- **Groups.**  There is one for each key, in ascending order, with the items of that key in their
order. -/
theorem groupSorted_eq (items : List (Text × α)) :
    groupSorted items = (sortedKeys items).map fun key => (key, itemsUnder key items) := by
  unfold groupSorted sortedKeys
  rw [foldl_addToGroup]
  exact (@List.map_mergeSort _ _ Text.ble (fun left right => Text.ble left.1 right.1)
    (fun key => (key, itemsUnder key items)) _ fun _ _ _ _ => rfl).symm

/-! ## Keys and items -/

theorem mem_sortedKeys {key : Text} {items : List (Text × α)} :
    key ∈ sortedKeys items ↔ key ∈ items.map Prod.fst := by
  unfold sortedKeys
  rw [List.mem_mergeSort, List.mem_eraseDups]

theorem ascending_sortedKeys (items : List (Text × α)) :
    (sortedKeys items).Pairwise fun left right => left.points < right.points :=
  Text.ascending_mergeSort (nodup_eraseDups _)

theorem nodup_sortedKeys (items : List (Text × α)) : (sortedKeys items).Nodup :=
  (List.mergeSort_perm _ _).nodup_iff.2 (nodup_eraseDups _)

/-- Items with the same keys in some order have the same sorted keys. -/
theorem sortedKeys_of_perm {β : Type} {items : List (Text × α)} {others : List (Text × β)}
    (sameKeys : (items.map Prod.fst).Perm (others.map Prod.fst)) :
    sortedKeys items = sortedKeys others := by
  apply Text.mergeSort_eq_of_perm
  rw [List.perm_ext_iff_of_nodup (nodup_eraseDups _) (nodup_eraseDups _)]
  intro key
  rw [List.mem_eraseDups, List.mem_eraseDups]
  exact sameKeys.mem_iff

/-- Groups depend on the keys that come and on the items of each key. -/
theorem groupSorted_congr {items others : List (Text × α)}
    (sameKeys : (items.map Prod.fst).Perm (others.map Prod.fst))
    (sameItems : ∀ key, itemsUnder key items = itemsUnder key others) :
    groupSorted items = groupSorted others := by
  rw [groupSorted_eq, groupSorted_eq, sortedKeys_of_perm sameKeys]
  simp only [sameItems]

/-- Under different keys there are different parts of a list. -/
theorem flatMap_filter_perm (items : List (Text × α)) {keys : List Text} (different : keys.Nodup) :
    (keys.flatMap fun key => items.filter fun item => item.1 = key).Perm
      (items.filter fun item => item.1 ∈ keys) := by
  induction keys with
  | nil => simp
  | cons key keys inductionHypothesis =>
      obtain ⟨fresh, differentBehind⟩ := List.nodup_cons.1 different
      rw [List.flatMap_cons]
      have here : (items.filter fun item => item.1 = key) =
          (items.filter fun item => item.1 ∈ key :: keys).filter fun item => item.1 = key := by
        rw [List.filter_filter]
        apply List.filter_congr
        intro item _
        by_cases same : item.1 = key <;> simp [same]
      have behind : (items.filter fun item => item.1 ∈ keys) =
          (items.filter fun item => item.1 ∈ key :: keys).filter fun item => !decide (item.1 = key) := by
        rw [List.filter_filter]
        apply List.filter_congr
        intro item _
        by_cases same : item.1 = key <;> simp [same, fresh]
      refine ((inductionHypothesis differentBehind).append_left _).trans ?_
      rw [here, behind]
      exact List.filter_append_perm _ _

/-- **Every item is in one group.** -/
theorem flatMap_itemsUnder_perm (items : List (Text × α)) :
    ((sortedKeys items).flatMap fun key => itemsUnder key items).Perm (items.map Prod.snd) := by
  have everywhere : (items.filter fun item => item.1 ∈ sortedKeys items) = items := by
    rw [List.filter_eq_self]
    intro item member
    rw [decide_eq_true_eq, mem_sortedKeys]
    exact List.mem_map_of_mem member
  have perm := flatMap_filter_perm items (nodup_sortedKeys items)
  rw [everywhere] at perm
  unfold itemsUnder
  rw [← List.map_flatMap]
  exact perm.map Prod.snd

end Findings.Summary
