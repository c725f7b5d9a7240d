import Findings.Json.Basic
import Findings.Proofs.Entries
import Findings.Proofs.Text.Joined

/-!
Contract: values in which every surrogate pair is joined.

Owns:
- `Json.Mentions`, the texts inside a value, whether they are texts or names of members;
- `Json.IsJoined`, that none of them holds an unjoined surrogate pair, kind by kind of value.
-/

set_option autoImplicit false

namespace Findings.Json

/-- A text stands somewhere inside a value. -/
inductive Mentions : Json → Text → Prop where
  | text (value : Text) : Mentions (.text value) value
  | item {items : List Json} {item : Json} {text : Text} (member : item ∈ items)
      (inside : Mentions item text) : Mentions (.array items) text
  | name {members : List (Text × Json)} {entry : Text × Json} (member : entry ∈ members) :
      Mentions (.object members) entry.1
  | value {members : List (Text × Json)} {entry : Text × Json} {text : Text}
      (member : entry ∈ members) (inside : Mentions entry.2 text) : Mentions (.object members) text

/-- No text inside a value holds an unjoined surrogate pair. -/
def IsJoined (value : Json) : Prop := ∀ text, value.Mentions text → text.IsJoined

theorem isJoined_text_iff {value : Text} : IsJoined (.text value) ↔ value.IsJoined := by
  constructor
  · exact fun joined => joined value (.text value)
  · intro joined text mentioned
    cases mentioned with
    | text => exact joined

theorem isJoined_array_iff {items : List Json} :
    IsJoined (.array items) ↔ ∀ item ∈ items, item.IsJoined := by
  constructor
  · exact fun joined item member text inside => joined text (.item member inside)
  · intro joined text mentioned
    cases mentioned with
    | item member inside => exact joined _ member text inside

theorem isJoined_object_iff {members : List (Text × Json)} :
    IsJoined (.object members) ↔ ∀ entry ∈ members, entry.1.IsJoined ∧ entry.2.IsJoined := by
  constructor
  · intro joined entry member
    exact ⟨joined _ (.name member), fun text inside => joined text (.value member inside)⟩
  · intro joined text mentioned
    cases mentioned with
    | name member => exact (joined _ member).1
    | value member inside => exact (joined _ member).2 text inside

/-- A value that is neither text nor container mentions no text. -/
theorem isJoined_of_atom {value : Json} (noText : value.text? = none)
    (noArray : value.array? = none) (noObject : value.object? = none) : value.IsJoined := by
  intro text mentioned
  cases mentioned with
  | text => cases noText
  | item => cases noArray
  | name => cases noObject
  | value => cases noObject

theorem IsJoined.find? {members : Entries Json} (joined : IsJoined (.object members))
    {name : Text} {value : Json} (found : Entries.find? name members = some value) :
    value.IsJoined :=
  (isJoined_object_iff.1 joined _ (Entries.mem_of_find? found)).2

theorem IsJoined.insert {members : Entries Json} (joined : IsJoined (.object members)) {name : Text}
    (nameJoined : name.IsJoined) {value : Json} (valueJoined : value.IsJoined) :
    IsJoined (.object (Entries.insert name value members)) := by
  refine isJoined_object_iff.2 fun entry member => ?_
  rcases Entries.mem_insert member with isNew | isOld
  · rw [isNew]
    exact ⟨nameJoined, valueJoined⟩
  · exact isJoined_object_iff.1 joined entry isOld

end Findings.Json
