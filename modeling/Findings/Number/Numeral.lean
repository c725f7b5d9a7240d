import Findings.Text.Letters

/-!
Contract: natural numbers in decimal digits.

Owns: how many digits of an integer are read at most, and the reading of digits of any script.
-/

set_option autoImplicit false

namespace Findings.Numeral

/-- Integers of more digits than this are not read. -/
def maxDigits : Nat := 4300

/-- The wording for an integer with too many digits. -/
def excessMessage (digits : Nat) : Text :=
  Text.ofString "Exceeds the limit (" ++ Text.ofNat maxDigits
    ++ Text.ofString " digits) for integer string conversion: value has " ++ Text.ofNat digits
    ++ Text.ofString " digits; use sys.set_int_max_str_digits() to increase the limit"

/-- Why digits are no number: there are none, or too many. -/
inductive Fault where
  | empty
  | excessive (digits : Nat)
deriving DecidableEq, Repr

def Fault.message : Fault → Text
  | .empty => "invalid literal for int() with base 10: ''"
  | .excessive digits => excessMessage digits

/-- The number that digits of any script denote. -/
def natural (digits : Text) : Except Fault Nat :=
  if digits = [] then .error .empty
  else if maxDigits < digits.length then .error (.excessive digits.length)
  else .ok (digits.foldl (fun value c => value * 10 + c.decimalValue?.getD 0) 0)

end Findings.Numeral
