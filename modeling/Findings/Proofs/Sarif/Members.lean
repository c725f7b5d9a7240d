import Findings.Proofs.Json.RoundTrip
import Findings.Sarif.Encoding
import Mathlib.Data.List.Nodup

/-!
Contract: written members that are read back.

Owns: `ArePlain`, members under some of the given names with plain values; they make a plain object
when the names are different.
-/

set_option autoImplicit false

namespace Findings.Sarif

/-- Members under some of the given names, in their order, with plain values. -/
structure ArePlain (names : List String) (members : List (Text × Json)) : Prop where
  keys : (Entries.keys members).Sublist (names.map Text.ofString)
  values : ∀ entry ∈ members, entry.2.IsPlain

theorem arePlain_member {name : String} {value : Json} (plain : value.IsPlain) :
    ArePlain [name] (member name value) where
  keys := .refl _
  values := List.forall_mem_singleton.2 plain

theorem arePlain_member? {α : Type} {name : String} {value : Option α} {encode : α → Json}
    (plain : ∀ inner ∈ value, (encode inner).IsPlain) :
    ArePlain [name] (member? name value encode) := by
  cases value with
  | none => exact { keys := List.nil_sublist _, values := fun entry isEntry => by cases isEntry }
  | some inner => exact arePlain_member (plain inner rfl)

theorem ArePlain.append {leftNames rightNames : List String} {left right : List (Text × Json)}
    (leftPlain : ArePlain leftNames left) (rightPlain : ArePlain rightNames right) :
    ArePlain (leftNames ++ rightNames) (left ++ right) where
  keys := by
    unfold Entries.keys
    rw [List.map_append, List.map_append]
    exact leftPlain.keys.append rightPlain.keys
  values := List.forall_mem_append.2 ⟨leftPlain.values, rightPlain.values⟩

/-- Members under different names make a plain object. -/
theorem ArePlain.isPlain {names : List String} {members : List (Text × Json)}
    (plain : ArePlain names members) (different : names.Nodup) : (Json.object members).IsPlain := by
  have nodup : (names.map Text.ofString).Nodup :=
    different.map fun _ _ equal => Text.ofString_inj.1 equal
  refine .object (nodup.sublist plain.keys) (fun entry isEntry => ?_) plain.values
  obtain ⟨name, _, isName⟩ := List.mem_map.1 (plain.keys.subset (List.mem_map_of_mem isEntry))
  rw [← isName]
  exact Text.isJoined_ofString name

theorem isPlain_array {α : Type} {items : List α} {encode : α → Json}
    (plain : ∀ item ∈ items, (encode item).IsPlain) : (Json.array (items.map encode)).IsPlain :=
  .array (List.forall_mem_map.2 plain)

end Findings.Sarif
