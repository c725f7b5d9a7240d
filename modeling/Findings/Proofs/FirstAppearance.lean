import Mathlib.Data.List.Induction
import Mathlib.Data.List.Nodup

/-!
Contract: lists of first appearances.

Owns:
- `List.eraseDups` as the table of the different members of a list, in the order in which they first
  appear: it holds each member once, and a longer list only adds to its end;
- positions in such a table, which never change as the list grows.
-/

set_option autoImplicit false

namespace Findings.FirstAppearance

universe u v

variable {α : Type u} [BEq α] [LawfulBEq α]

/-! ## The table -/

/-- One more member leaves the table as it is, or goes to its end. -/
theorem eraseDups_concat (items : List α) (item : α) :
    (items ++ [item]).eraseDups =
      if item ∈ items then items.eraseDups else items.eraseDups ++ [item] := by
  rw [List.eraseDups_append, List.cons_removeAll]
  by_cases known : item ∈ items
  · simp [known]
  · simp [known, List.eraseDups_cons]

theorem nodup_eraseDups (items : List α) : items.eraseDups.Nodup := by
  induction items using List.reverseRecOn with
  | nil => simp
  | append_singleton items item inductionHypothesis =>
      rw [eraseDups_concat]
      split
      · exact inductionHypothesis
      · rename_i new
        refine List.Nodup.append inductionHypothesis (List.nodup_singleton item) ?_
        intro other member isItem
        rw [List.mem_singleton] at isItem
        rw [isItem, List.mem_eraseDups] at member
        exact new member

/-- The table of some kind of members is that part of the whole table. -/
theorem eraseDups_filter (keep : α → Bool) (items : List α) :
    (items.filter keep).eraseDups = items.eraseDups.filter keep := by
  induction items using List.reverseRecOn with
  | nil => rfl
  | append_singleton items item inductionHypothesis =>
      rw [List.filter_append, eraseDups_concat]
      by_cases kept : keep item = true
      · rw [List.filter_cons_of_pos kept, List.filter_nil, eraseDups_concat, inductionHypothesis]
        by_cases known : item ∈ items
        · rw [if_pos known, if_pos (List.mem_filter.2 ⟨known, kept⟩)]
        · rw [if_neg known, if_neg fun member => known (List.mem_filter.1 member).1,
            List.filter_append, List.filter_cons_of_pos kept, List.filter_nil]
      · rw [List.filter_cons_of_neg kept, List.filter_nil, List.append_nil, inductionHypothesis]
        split
        · rfl
        · rw [List.filter_append, List.filter_cons_of_neg kept, List.filter_nil, List.append_nil]

/-- A member that comes several times in a row counts once. -/
theorem eraseDups_append_replicate (items : List α) (item : α) (more : Nat) :
    (items ++ List.replicate (more + 1) item).eraseDups = (items ++ [item]).eraseDups := by
  induction more with
  | zero => rfl
  | succ more inductionHypothesis =>
      have known : item ∈ items ++ List.replicate (more + 1) item := by simp
      rw [List.replicate_succ', ← List.append_assoc, eraseDups_concat, if_pos known,
        inductionHypothesis]

/-- A table does not tell how often its members come, only which come at all. -/
theorem eraseDups_flatMap_replicate {β : Type v} (count : β → Nat) (f : β → α) (sources : List β) :
    (sources.flatMap fun source => List.replicate (count source) (f source)).eraseDups =
      ((sources.filter fun source => count source ≠ 0).map f).eraseDups := by
  induction sources using List.reverseRecOn with
  | nil => rfl
  | append_singleton sources source inductionHypothesis =>
      rw [List.flatMap_append, List.filter_append, List.map_append, List.flatMap_singleton]
      cases counted : count source with
      | zero => simpa [counted] using inductionHypothesis
      | succ more =>
          have sameMember :
              f source ∈ (sources.flatMap fun source => List.replicate (count source) (f source)) ↔
                f source ∈ (sources.filter fun source => count source ≠ 0).map f := by
            rw [← List.mem_eraseDups, inductionHypothesis, List.mem_eraseDups]
          have kept : ([source].filter fun source => count source ≠ 0) = [source] := by
            simp [counted]
          rw [eraseDups_append_replicate, kept, List.map_singleton, eraseDups_concat,
            eraseDups_concat, inductionHypothesis]
          simp only [sameMember]

/-! ## Positions -/

/-- A member keeps its position when the list grows. -/
theorem idxOf_eraseDups_append (items more : List α) {item : α} (member : item ∈ items) :
    (items ++ more).eraseDups.idxOf item = items.eraseDups.idxOf item := by
  rw [List.eraseDups_append, List.idxOf_append, if_pos (List.mem_eraseDups.2 member)]

/-- What is looked up keeps its position, or its absence, unless it is among what is new. -/
theorem idxOf?_eraseDups_append (items more : List α) {item : α}
    (known : item ∈ more → item ∈ items) :
    (items ++ more).eraseDups.idxOf? item = items.eraseDups.idxOf? item := by
  by_cases member : item ∈ items
  · have found : (items.eraseDups.idxOf? item).isSome := by
      rw [List.isSome_idxOf?, List.mem_eraseDups]
      exact member
    unfold List.idxOf? at found ⊢
    rw [List.eraseDups_append, List.findIdx?_append, Option.or_of_isSome found]
  · have absent : item ∉ items ++ more := by
      intro inEither
      rcases List.mem_append.1 inEither with inItems | inMore
      · exact member inItems
      · exact member (known inMore)
    rw [List.idxOf?_eq_none_iff.2 (by rwa [List.mem_eraseDups]),
      List.idxOf?_eq_none_iff.2 (by rwa [List.mem_eraseDups])]

theorem findIdx?_eq_idxOf? [DecidableEq α] (items : List α) (item : α) :
    (items.findIdx? fun other => other = item) = items.idxOf? item := by
  unfold List.idxOf?
  congr
  funext other
  exact (beq_eq_decide other item).symm

theorem idxOf?_of_mem {items : List α} {item : α} (member : item ∈ items) :
    items.idxOf? item = some (items.idxOf item) := by
  cases found : items.idxOf? item with
  | none => exact absurd member (List.idxOf?_eq_none_iff.1 found)
  | some index =>
      unfold List.idxOf? at found
      rw [List.idxOf, (List.findIdx?_eq_some_iff_findIdx_eq.1 found).2]

/-- A member stands at its position. -/
theorem getElem?_idxOf {items : List α} {item : α} (member : item ∈ items) :
    items[items.idxOf item]? = some item := by
  rw [List.getElem?_eq_getElem (List.idxOf_lt_length_of_mem member), List.getElem_idxOf]

/-- What is found stands where it is found. -/
theorem getElem?_of_idxOf? {items : List α} {item : α} {index : Nat}
    (found : items.idxOf? item = some index) : items[index]? = some item := by
  have member : item ∈ items := by
    rw [← List.isSome_idxOf?, found]
    rfl
  rw [idxOf?_of_mem member] at found
  cases found
  exact getElem?_idxOf member

/-- Different members stand at different places. -/
theorem eq_of_idxOf?_eq {items : List α} {left right : α} {index : Nat}
    (foundLeft : items.idxOf? left = some index) (foundRight : items.idxOf? right = some index) :
    left = right := by
  have there := getElem?_of_idxOf? foundLeft
  rw [getElem?_of_idxOf? foundRight] at there
  cases there
  rfl

end Findings.FirstAppearance
