import Findings.Entries
import Mathlib.Data.List.Induction

/-!
Contract: look-up and insertion in association lists.

Owns: what is found under a key is an entry, and where every key stands once the order of entries
does not matter for that; an insertion adds its own entry and no other, and a new key goes to the end;
of pairs, the last one under a key is found; a function written down for a list of keys.
-/

set_option autoImplicit false

namespace Findings.Entries

universe u v

variable {α : Type u} {β : Type v}

theorem find?_append (key : Text) (left right : Entries α) :
    find? key (left ++ right) = (find? key left).or (find? key right) := by
  induction left with
  | nil => rfl
  | cons entry left inductionHypothesis =>
      rw [List.cons_append, find?, find?]
      split
      · rfl
      · exact inductionHypothesis

theorem mem_keys {key : Text} {value : α} {entries : Entries α} (member : (key, value) ∈ entries) :
    key ∈ entries.keys := List.mem_map.2 ⟨_, member, rfl⟩

theorem mem_of_find? {key : Text} {value : α} {entries : Entries α}
    (found : find? key entries = some value) : (key, value) ∈ entries := by
  induction entries with
  | nil => cases found
  | cons entry entries inductionHypothesis =>
      obtain ⟨name, other⟩ := entry
      rw [find?] at found
      split at found
      · rename_i same
        cases found
        rw [same]
        exact List.mem_cons_self ..
      · exact List.mem_cons_of_mem _ (inductionHypothesis found)

/-- Where every key stands once, every entry is found. -/
theorem find?_of_mem {key : Text} {value : α} {entries : Entries α} (once : entries.keys.Nodup)
    (member : (key, value) ∈ entries) : find? key entries = some value := by
  induction entries with
  | nil => cases member
  | cons entry entries inductionHypothesis =>
      obtain ⟨name, other⟩ := entry
      obtain ⟨fresh, onceBehind⟩ := List.nodup_cons.1 once
      rw [find?]
      rcases List.mem_cons.1 member with isFirst | inRest
      · cases isFirst
        exact if_pos rfl
      · have different : name ≠ key := fun same => fresh (same ▸ mem_keys inRest)
        rw [if_neg different]
        exact inductionHypothesis onceBehind inRest

/-- Where every key stands once, nothing depends on the order of entries. -/
theorem find?_of_perm {entries others : Entries α} (once : entries.keys.Nodup)
    (perm : entries.Perm others) (key : Text) : find? key others = find? key entries := by
  have onceToo : others.keys.Nodup := (perm.map Prod.fst).nodup_iff.1 once
  apply Option.ext
  intro value
  constructor
  · exact fun found => find?_of_mem once (perm.mem_iff.2 (mem_of_find? found))
  · exact fun found => find?_of_mem onceToo (perm.mem_iff.1 (mem_of_find? found))

theorem find?_of_not_mem {key : Text} {entries : Entries α} (absent : key ∉ entries.keys) :
    find? key entries = none := by
  rw [Option.eq_none_iff_forall_ne_some]
  exact fun value found => absent (mem_keys (mem_of_find? found))

theorem find?_eq_none_iff {key : Text} {entries : Entries α} :
    find? key entries = none ↔ key ∉ entries.keys := by
  refine ⟨fun absent member => ?_, find?_of_not_mem⟩
  induction entries with
  | nil => cases member
  | cons entry entries inductionHypothesis =>
      obtain ⟨name, other⟩ := entry
      rw [find?] at absent
      split at absent
      · cases absent
      · rename_i different
        exact inductionHypothesis absent (List.mem_of_ne_of_mem (Ne.symm different) member)

/-- Among the entries whose keys are of a class, those of the class are found. -/
theorem find?_filter (inClass : Text → Bool) (key : Text) (entries : Entries α) :
    find? key (entries.filter fun entry => inClass entry.1) =
      if inClass key then find? key entries else none := by
  induction entries with
  | nil => simp [find?]
  | cons entry entries inductionHypothesis =>
      obtain ⟨name, value⟩ := entry
      rw [List.filter_cons, find?]
      split
      · rw [find?, inductionHypothesis]
        grind
      · rw [inductionHypothesis]
        grind

theorem mem_insert {key : Text} {value : α} {entries : Entries α} {entry : Text × α}
    (member : entry ∈ insert key value entries) : entry = (key, value) ∨ entry ∈ entries := by
  induction entries with
  | nil => exact .inl (List.mem_singleton.1 member)
  | cons first entries inductionHypothesis =>
      obtain ⟨name, old⟩ := first
      rw [insert] at member
      split at member
      · rename_i same
        rcases List.mem_cons.1 member with isFirst | inRest
        · exact .inl (same ▸ isFirst)
        · exact .inr (List.mem_cons_of_mem _ inRest)
      · rcases List.mem_cons.1 member with isFirst | inRest
        · exact .inr (isFirst ▸ List.mem_cons_self ..)
        · exact (inductionHypothesis inRest).imp_right (List.mem_cons_of_mem _)

theorem find?_mapValues (key : Text) (f : α → β) (entries : Entries α) :
    find? key (mapValues f entries) = (find? key entries).map f := by
  induction entries with
  | nil => rfl
  | cons entry entries inductionHypothesis =>
      show find? key ((entry.1, f entry.2) :: mapValues f entries) = _
      rw [find?, find?]
      split
      · rfl
      · exact inductionHypothesis

theorem insert_mapValues (key : Text) (value : α) (f : α → β) (entries : Entries α) :
    insert key (f value) (mapValues f entries) = mapValues f (insert key value entries) := by
  induction entries with
  | nil => rfl
  | cons entry entries inductionHypothesis =>
      show insert key (f value) ((entry.1, f entry.2) :: mapValues f entries) = _
      rw [insert, insert]
      split
      · rfl
      · rw [inductionHypothesis]
        rfl

theorem insert_of_not_mem {key : Text} {entries : Entries α} (fresh : key ∉ entries.keys)
    (value : α) : insert key value entries = entries ++ [(key, value)] := by
  induction entries with
  | nil => rfl
  | cons entry entries inductionHypothesis =>
      obtain ⟨name, old⟩ := entry
      have different : name ≠ key := fun same => fresh (same ▸ List.mem_cons_self ..)
      have freshBehind : key ∉ keys entries := fun member => fresh (List.mem_cons_of_mem _ member)
      rw [insert, if_neg different, inductionHypothesis freshBehind]
      rfl

theorem find?_insert (key name : Text) (value : α) (entries : Entries α) :
    find? key (insert name value entries) = if name = key then some value else find? key entries := by
  induction entries with
  | nil => rfl
  | cons entry entries inductionHypothesis =>
      obtain ⟨label, old⟩ := entry
      rw [insert]
      by_cases replaced : label = name
      · rw [if_pos replaced, find?, find?, replaced]
        split <;> rfl
      · rw [if_neg replaced, find?, find?, inductionHypothesis]
        by_cases isFirst : label = key
        · have other : name ≠ key := fun same => replaced (isFirst.trans same.symm)
          rw [if_pos isFirst, if_neg other, if_pos isFirst]
        · rw [if_neg isFirst, if_neg isFirst]

theorem ofPairs_concat (pairs : List (Text × α)) (name : Text) (value : α) :
    ofPairs (pairs ++ [(name, value)]) = insert name value (ofPairs pairs) := by
  unfold ofPairs
  rw [List.foldl_append]
  rfl

/-- Of several pairs under a key, the last one is found. -/
theorem find?_ofPairs_eq_some_iff {key : Text} {value : α} (pairs : List (Text × α)) :
    find? key (ofPairs pairs) = some value ↔
      ∃ before after, pairs = before ++ (key, value) :: after ∧ key ∉ keys after := by
  induction pairs using List.reverseRecOn with
  | nil => simp [ofPairs, find?]
  | append_singleton pairs last inductionHypothesis =>
      obtain ⟨name, other⟩ := last
      rw [ofPairs_concat, find?_insert]
      constructor
      · intro found
        by_cases isLast : name = key
        · rw [if_pos isLast] at found
          cases found
          rw [isLast]
          exact ⟨pairs, [], rfl, List.not_mem_nil⟩
        · rw [if_neg isLast] at found
          obtain ⟨before, after, rfl, absent⟩ := inductionHypothesis.1 found
          refine ⟨before, after ++ [(name, other)], by simp, ?_⟩
          unfold keys at absent ⊢
          rw [List.map_append, List.mem_append, not_or]
          exact ⟨absent, fun member => isLast (List.mem_singleton.1 member).symm⟩
      · rintro ⟨before, after, isWhole, absent⟩
        cases after using List.reverseRecOn with
        | nil =>
            obtain ⟨-, isLast⟩ := List.append_inj' isWhole rfl
            cases isLast
            exact if_pos rfl
        | append_singleton middle last =>
            have regrouped : before ++ (key, value) :: (middle ++ [last]) =
                (before ++ (key, value) :: middle) ++ [last] := by simp
            rw [regrouped] at isWhole
            obtain ⟨rfl, isLast⟩ := List.append_inj' isWhole rfl
            cases isLast
            unfold keys at absent
            rw [List.map_append, List.mem_append, not_or] at absent
            have different : name ≠ key := fun same => absent.2 (List.mem_singleton.2 same.symm)
            rw [if_neg different]
            exact inductionHypothesis.2 ⟨before, middle, rfl, absent.1⟩

/-! ## Functions on keys -/

/-- The values of a function under given keys. -/
def tabulate (f : Text → α) (names : List Text) : Entries α := names.map fun name => (name, f name)

section Tables

variable {f g : Text → α} {names : List Text} {key : Text}

theorem tabulate_cons (name : Text) :
    tabulate f (name :: names) = (name, f name) :: tabulate f names := rfl

theorem tabulate_append (more : List Text) :
    tabulate f (names ++ more) = tabulate f names ++ tabulate f more :=
  List.map_append

theorem tabulate_congr (same : ∀ name ∈ names, f name = g name) :
    tabulate f names = tabulate g names := by
  apply List.map_congr_left
  intro name member
  rw [same name member]

@[simp] theorem keys_tabulate : keys (tabulate f names) = names := by
  unfold keys tabulate
  rw [List.map_map]
  exact List.map_id names

theorem find?_tabulate_of_mem (listed : key ∈ names) :
    find? key (tabulate f names) = some (f key) := by
  induction names with
  | nil => cases listed
  | cons name names inductionHypothesis =>
      rw [tabulate_cons, find?]
      by_cases isFirst : name = key
      · rw [if_pos isFirst, isFirst]
      · rw [if_neg isFirst]
        exact inductionHypothesis (List.mem_of_ne_of_mem (Ne.symm isFirst) listed)

/-- A new value under a listed key is a change of the function at this key. -/
theorem insert_tabulate_of_mem (once : names.Nodup) (listed : key ∈ names) (value : α) :
    insert key value (tabulate f names) =
      tabulate (fun name => if name = key then value else f name) names := by
  induction names with
  | nil => cases listed
  | cons name names inductionHypothesis =>
      obtain ⟨fresh, onceBehind⟩ := List.nodup_cons.1 once
      rw [tabulate_cons, tabulate_cons, insert]
      by_cases isFirst : name = key
      · have unchanged : tabulate f names =
            tabulate (fun name => if name = key then value else f name) names := by
          apply tabulate_congr
          intro other member
          have different : other ≠ key := by
            rintro rfl
            exact fresh (isFirst ▸ member)
          rw [if_neg different]
        rw [if_pos isFirst, if_pos isFirst, unchanged]
      · rw [if_neg isFirst, if_neg isFirst,
          inductionHypothesis onceBehind (List.mem_of_ne_of_mem (Ne.symm isFirst) listed)]

end Tables

end Findings.Entries
