import Findings.Terminal.Wrap

/-!
Contract: a text in a frame with a subtitle.

Owns: the frame with rounded corners over the whole width, the padding of the text to the frame, and
the subtitle in the middle of the lower edge.
-/

set_option autoImplicit false

namespace Findings.Terminal

def horizontal : CodePoint := CodePoint.ofChar '─'

def vertical : CodePoint := CodePoint.ofChar '│'

/-- Fill a line with blanks up to a width. -/
def padTo (width : Nat) (line : Text) : Text :=
  line ++ Text.replicate (width - Text.columns line) ' '

/-- A text in the middle of a rule; of the rest the smaller half stands on the left. -/
def centredInRule (width : Nat) (text : Text) : Text :=
  let text := cutToWidth width text
  let rest := width - Text.columns text
  Text.replicate (rest / 2) horizontal ++ text ++ Text.replicate (rest - rest / 2) horizontal

/-- The lower edge of a frame, with its subtitle where there is room for one. -/
def lowerEdge (width : Nat) (subtitle : Text) : Text :=
  if width ≤ 4 then
    Text.ofString "╰" ++ Text.replicate (width - 2) horizontal ++ Text.ofString "╯"
  else
    Text.ofString "╰─"
      ++ centredInRule (width - 4) (Text.ofString " " ++ subtitle ++ Text.ofString " ")
      ++ Text.ofString "─╯"

/-- The lines of a text in a frame of a given width.  A frame that is wider than the terminal loses
its right side, and one that has no room inside shows no text. -/
def panel (width : Nat) (text subtitle : Text) : List Text :=
  let upper := Text.ofString "╭" ++ Text.replicate (width - 2) horizontal ++ Text.ofString "╮"
  let middle := (wrap (width - 4) text).map fun line =>
    [vertical, CodePoint.ofChar ' '] ++ padTo (width - 4) line ++ [CodePoint.ofChar ' ', vertical]
  if width = 0 then [] else (upper :: middle ++ [lowerEdge width subtitle]).map (cutToWidth width)

end Findings.Terminal
