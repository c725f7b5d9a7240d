import Findings.Json.Basic
import Findings.Number.Numeral
import Findings.Number.Shortest

/-!
Contract: writing JSON text.

Owns:
- `Json.render`, the written form of a value: members and items on lines of their own, indented by
  two blanks a level, empty containers closed at once, and strings in ASCII with escapes for
  everything else;
- `Json.write`, which refuses integers of more digits than are read back.
-/

set_option autoImplicit false

namespace Findings.Json

/-- The `\u` escape of a 16 bit unit. -/
def unitEscape (unit : Nat) : Text := Text.ofString "\\u" ++ Text.hexadecimal 4 unit

/-- A code point inside a written string.  A code point beyond 16 bits is written as a surrogate
pair. -/
def escapedPoint (c : CodePoint) : Text :=
  if c = '"' then ['\\', '"']
  else if c = '\\' then ['\\', '\\']
  else if c = '\n' then ['\\', 'n']
  else if c = '\r' then ['\\', 'r']
  else if c = '\t' then ['\\', 't']
  else if c = '\x0c' then ['\\', 'f']
  else if c = '\x08' then ['\\', 'b']
  else if c.within 0x20 0x7E then [c]
  else if c.val < 0x10000 then unitEscape c.val
  else unitEscape (0xD800 + (c.val - 0x10000) / 0x400)
    ++ unitEscape (0xDC00 + (c.val - 0x10000) % 0x400)

/-- The written form of a string. -/
def renderText (text : Text) : Text :=
  CodePoint.ofChar '"' :: text.flatMap escapedPoint ++ [CodePoint.ofChar '"']

/-- The written form of a floating point number. -/
def renderReal : Binary64 → Text
  | .notANumber => "NaN"
  | .infinite false => "Infinity"
  | .infinite true => "-Infinity"
  | .finite negative mantissa exponent => Binary64.finiteText negative mantissa exponent

/-- A new line at a level of indentation. -/
def newline (level : Nat) : Text :=
  CodePoint.ofChar '\n' :: Text.replicate (2 * level) ' '

mutual

/-- The written form of a value whose first line stands at a level of indentation. -/
def renderAt (level : Nat) : Json → Text
  | .null => "null"
  | .bool true => "true"
  | .bool false => "false"
  | .int value => Text.ofInt value
  | .real value => renderReal value
  | .text value => renderText value
  | .array [] => "[]"
  | .array (first :: items) =>
      Text.ofString "[" ++ (newline (level + 1) ++ (renderAt (level + 1) first
        ++ (renderItems (level + 1) items ++ (newline level ++ Text.ofString "]"))))
  | .object [] => "\x7b\x7d"
  | .object ((name, first) :: members) =>
      Text.ofString "\x7b" ++ (newline (level + 1) ++ (renderText name ++ (Text.ofString ": "
        ++ (renderAt (level + 1) first ++ (renderMembers (level + 1) members
          ++ (newline level ++ Text.ofString "\x7d"))))))

/-- The written form of the items after the first one. -/
def renderItems (level : Nat) : List Json → Text
  | [] => []
  | item :: items =>
      Text.ofString "," ++ (newline level ++ (renderAt level item ++ renderItems level items))

/-- The written form of the members after the first one. -/
def renderMembers (level : Nat) : List (Text × Json) → Text
  | [] => []
  | (name, value) :: members =>
      Text.ofString "," ++ (newline level ++ (renderText name ++ (Text.ofString ": "
        ++ (renderAt level value ++ renderMembers level members))))

end

/-- The written form of a value. -/
def render (value : Json) : Text := renderAt 0 value

/-! ## Writing within the limit -/

mutual

/-- Whether no integer in a value has too many digits to be written. -/
def isWritable : Json → Bool
  | .int value => decide ((Text.ofNat value.natAbs).length ≤ Numeral.maxDigits)
  | .array items => areWritable items
  | .object members => membersAreWritable members
  | _ => true

/-- Whether all items can be written. -/
def areWritable : List Json → Bool
  | [] => true
  | item :: items => item.isWritable && areWritable items

/-- Whether the values of all members can be written. -/
def membersAreWritable : List (Text × Json) → Bool
  | [] => true
  | (_, value) :: members => value.isWritable && membersAreWritable members

end

/-- Why a value cannot be written: it holds an integer of too many digits. -/
inductive WriteError where
  | excessiveInteger
deriving DecidableEq, Repr

def WriteError.message : WriteError → Text
  | .excessiveInteger =>
      Text.ofString "Exceeds the limit (" ++ Text.ofNat Numeral.maxDigits
        ++ Text.ofString " digits) for integer string conversion; use "
        ++ Text.ofString "sys.set_int_max_str_digits() to increase the limit"

/-- Write a value, unless it holds an integer of too many digits. -/
def write (value : Json) : Except WriteError Text :=
  if value.isWritable then .ok value.render else .error .excessiveInteger

end Findings.Json
