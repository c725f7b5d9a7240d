import Findings.Text.Basic

/-!
Contract: association lists keyed by text that remember the order of first appearance.

Owns: look-up, and insertion that keeps the place of a key it already holds.  Objects of a report,
rule metadata and configuration tables are all kept this way, so that what is written out has the
order of what was read.
-/

set_option autoImplicit false

namespace Findings

universe u v

/-- Values under text keys, in the order in which the keys first appeared. -/
abbrev Entries (α : Type u) := List (Text × α)

namespace Entries

variable {α : Type u} {β : Type v}

/-- The value under a key. -/
def find? (key : Text) : Entries α → Option α
  | [] => none
  | (name, value) :: rest => if name = key then some value else find? key rest

/-- Put a value under a key: a new key goes to the end, a known one keeps its place. -/
def insert (key : Text) (value : α) : Entries α → Entries α
  | [] => [(key, value)]
  | (name, old) :: rest =>
      if name = key then (name, value) :: rest else (name, old) :: insert key value rest

/-- The entries of a list of pairs: the first appearance of a key fixes its place, the last one its
value. -/
def ofPairs (pairs : List (Text × α)) : Entries α :=
  pairs.foldl (fun entries pair => insert pair.1 pair.2 entries) []

/-- The keys in order. -/
def keys (entries : Entries α) : List Text := entries.map Prod.fst

/-- Apply a function to every value. -/
def mapValues (f : α → β) (entries : Entries α) : Entries β :=
  entries.map fun entry => (entry.1, f entry.2)

end Entries

end Findings
