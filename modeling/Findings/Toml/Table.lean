import Findings.Toml.Basic

/-!
Contract: tables that are reached by keys.

Owns: the change of a table that lies behind a key, where tables on the way come into being when
they are missing.
-/

set_option autoImplicit false

namespace Findings.Toml

/-- The members of a table. -/
abbrev Table := Entries Value

namespace Table

/-- Whether an array on the way to a table stands for its last item.  It does for the keys of a
document, whose headings can open one table of an array after the other. -/
inductive ArrayAccess where
  | lastItem
  | refused
deriving DecidableEq

/-- Change the table behind a key.  There is none behind a value of another kind, nor behind an
array whose last item is no table. -/
def changeBehind (arrays : ArrayAccess) (change : Table → Option Table) :
    Key → Table → Option Table
  | [], table => change table
  | name :: key, table =>
      match Entries.find? name table with
      | none =>
          (changeBehind arrays change key []).map fun inner =>
            Entries.insert name (.table inner) table
      | some (.table members) =>
          (changeBehind arrays change key members).map fun inner =>
            Entries.insert name (.table inner) table
      | some (.array items) =>
          match arrays, items.getLast? with
          | .lastItem, some (.table members) =>
              (changeBehind arrays change key members).map fun inner =>
                Entries.insert name (.array (items.dropLast ++ [.table inner])) table
          | _, _ => none
      | some _ => none

/-- Put a value under a name that is still free. -/
def addMember (name : Text) (value : Value) (table : Table) : Option Table :=
  match Entries.find? name table with
  | none => some (Entries.insert name value table)
  | some _ => none

/-- Put one more empty table at the end of the array under a name, which may be missing. -/
def addToArray (name : Text) (table : Table) : Option Table :=
  match Entries.find? name table with
  | none => some (Entries.insert name (.array [.table []]) table)
  | some (.array items) => some (Entries.insert name (.array (items ++ [.table []])) table)
  | some _ => none

/-- Change the table of the last name of a key. -/
def changeParent (arrays : ArrayAccess) (change : Text → Table → Option Table) (key : Key)
    (table : Table) : Option Table :=
  changeBehind arrays (change (key.getLast?.getD [])) key.dropLast table

end Table

/-- Whether one of some keys is a beginning of a key. -/
def reaches (keys : List Key) (key : Key) : Bool := keys.any fun known => known.isPrefixOf key

end Findings.Toml
