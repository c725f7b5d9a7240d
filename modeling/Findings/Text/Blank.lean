import Findings.Text.Basic

/-!
Contract: the blank code points, that is, those with the Unicode property White_Space together with
the four information separators.

Owns: the class itself and trimming by it.
-/

set_option autoImplicit false

namespace Findings

/-- Whether some range of a table holds a number. -/
def inRanges (ranges : List (Nat × Nat)) (n : Nat) : Bool :=
  ranges.any fun range => decide (range.1 ≤ n) && decide (n ≤ range.2)

/-- The ranges of blank code points. -/
def blankRanges : List (Nat × Nat) :=
  [(0x9, 0xD), (0x1C, 0x20), (0x85, 0x85), (0xA0, 0xA0), (0x1680, 0x1680), (0x2000, 0x200A),
    (0x2028, 0x2029), (0x202F, 0x202F), (0x205F, 0x205F), (0x3000, 0x3000)]

/-- Whether a code point is blank. -/
def CodePoint.isBlank (c : CodePoint) : Bool := inRanges blankRanges c.val

/-- Drop blanks at both ends. -/
def Text.trimBlank (text : Text) : Text := text.trim CodePoint.isBlank

end Findings
