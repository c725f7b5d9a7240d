import Findings.Entries
import Findings.Number.Binary64

/-!
Contract: the values that JSON text denotes.

Owns: the type `Json` and the views of a value as one of its kinds.  Numbers without fraction and
exponent are integers of any size; the others are 64 bit floating point numbers.  An object keeps
its members in order of first appearance, and its names are pairwise different when it was read
from text.
-/

set_option autoImplicit false

namespace Findings

inductive Json where
  | null
  | bool (value : Bool)
  | int (value : Int)
  | real (value : Binary64)
  | text (value : Text)
  | array (items : List Json)
  | object (members : List (Text × Json))

namespace Json

instance : Inhabited Json := ⟨null⟩

/-- The text of a text value. -/
def text? : Json → Option Text
  | .text value => some value
  | _ => none

/-- The number of an integer value.  Truth values are not integers. -/
def int? : Json → Option Int
  | .int value => some value
  | _ => none

/-- The items of an array. -/
def array? : Json → Option (List Json)
  | .array items => some items
  | _ => none

/-- The members of an object. -/
def object? : Json → Option (Entries Json)
  | .object members => some members
  | _ => none

/-- The member of an object under a name. -/
def member? (name : Text) (value : Json) : Option Json :=
  value.object?.bind (Entries.find? name)

end Json

end Findings
