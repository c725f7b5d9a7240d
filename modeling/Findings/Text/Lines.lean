import Findings.Text.Basic

/-!
Contract: line ends and places in a text.

Owns: the reading of carriage returns as line ends, and the line and column of an offset.
-/

set_option autoImplicit false

namespace Findings.Text

/-- The line feed ends a line. -/
def lineFeed : CodePoint := CodePoint.ofChar '\n'

def carriageReturn : CodePoint := CodePoint.ofChar '\r'

/-- One step of reading line ends: what is read so far in reverse, and whether the last code point
was a carriage return. -/
def newlineStep (state : Text × Bool) (c : CodePoint) : Text × Bool :=
  if c = carriageReturn then (lineFeed :: state.1, true)
  else if c = lineFeed ∧ state.2 then (state.1, false)
  else (c :: state.1, false)

/-- A carriage return, alone or with the line feed after it, is read as one line feed. -/
def universalNewlines (text : Text) : Text :=
  (text.foldl newlineStep ([], false)).1.reverse

/-- A place in a text: line and column count from one, the offset from zero. -/
structure Place where
  line : Nat
  column : Nat
  offset : Nat
  deriving DecidableEq, Repr

/-- The place that lies after a given beginning of the text. -/
def placeAfter (before : Text) : Place where
  line := before.count lineFeed + 1
  column := (before.reverse.takeWhile fun c => c ≠ lineFeed).length + 1
  offset := before.length

/-- The place in `whole` at which its ending `rest` begins. -/
def placeOf (whole rest : Text) : Place :=
  placeAfter (whole.take (whole.length - rest.length))

end Findings.Text
