import Findings.Json.Basic
import Findings.Number.Shortest
import Findings.Text.Quoted

/-!
Contract: how a value is spelled inside a sentence.

Owns: `Json.spelling`, by which a value that is not text is put where a report should hold text.  A
text is itself at the top and quoted inside a container.  This spelling is not JSON text: it writes
`None`, `True` and `nan`, and separates items with a comma and a blank.
-/

set_option autoImplicit false

namespace Findings.Json

/-- The spelling of a floating point number. -/
def spelledReal : Binary64 → Text
  | .notANumber => "nan"
  | .infinite false => "inf"
  | .infinite true => "-inf"
  | .finite negative mantissa exponent => Binary64.finiteText negative mantissa exponent

mutual

/-- The spelling of a value inside a container. -/
def spelledInside : Json → Text
  | .null => "None"
  | .bool true => "True"
  | .bool false => "False"
  | .int value => Text.ofInt value
  | .real value => spelledReal value
  | .text value => Text.quoted value
  | .array [] => "[]"
  | .array (first :: items) =>
      Text.ofString "[" ++ (spelledInside first ++ (spelledItems items ++ Text.ofString "]"))
  | .object [] => "\x7b\x7d"
  | .object ((name, first) :: members) =>
      Text.ofString "\x7b" ++ (Text.quoted name ++ (Text.ofString ": "
        ++ (spelledInside first ++ (spelledMembers members ++ Text.ofString "\x7d"))))

/-- The spelling of the items after the first one. -/
def spelledItems : List Json → Text
  | [] => []
  | item :: items => Text.ofString ", " ++ (spelledInside item ++ spelledItems items)

/-- The spelling of the members after the first one. -/
def spelledMembers : List (Text × Json) → Text
  | [] => []
  | (name, value) :: members =>
      Text.ofString ", " ++ (Text.quoted name ++ (Text.ofString ": "
        ++ (spelledInside value ++ spelledMembers members)))

end

/-- The spelling of a value. -/
def spelling : Json → Text
  | .text value => value
  | value => spelledInside value

end Findings.Json
