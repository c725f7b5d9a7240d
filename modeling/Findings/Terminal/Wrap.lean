import Findings.Text.Lines
import Findings.Text.Width

/-!
Contract: how a text is laid out on a terminal of a given width.

Owns: the removal of controls that would move the cursor, the expansion of tabs, and the breaking of
lines between words.  A word that is wider than the terminal is folded into pieces.

Does not own: frames (`Findings.Terminal.Panel`) and markup (`Findings.Terminal.Markup`).
-/

set_option autoImplicit false

namespace Findings.Terminal

/-- The controls that are never printed: bell, backspace, vertical tab, form feed and carriage
return. -/
def movesCursor (c : CodePoint) : Bool :=
  c.val = 7 || c.val = 8 || c.val = 11 || c.val = 12 || c.val = 13

/-- Drop the controls that are never printed. -/
def dropControls (text : Text) : Text := text.filter fun c => !movesCursor c

/-! ## Tabs -/

/-- The distance between tab stops. -/
def tabSize : Nat := 8

/-- Put one more code point behind an expanded line, which is kept in reverse with its columns. -/
def expandStep (state : Text × Nat) (c : CodePoint) : Text × Nat :=
  if c = '\t' then
    let blanks := tabSize - state.2 % tabSize
    (Text.replicate blanks ' ' ++ state.1, state.2 + blanks)
  else (c :: state.1, state.2 + c.columns)

/-- Replace every tab by blanks up to the next tab stop. -/
def expandTabs (line : Text) : Text := (line.foldl expandStep ([], 0)).1.reverse

/-! ## Words -/

/-- Put a code point in front of the words of a text; a word ends before a code point that is not
blank and follows a blank. -/
def wordStep (c : CodePoint) : List Text → List Text
  | [] => [[c]]
  | [] :: words => [c] :: words
  | (next :: word) :: words =>
      if c.isBlank && !next.isBlank then [c] :: (next :: word) :: words
      else (c :: next :: word) :: words

/-- Blanks in front of the first word belong to it; blanks alone are no word. -/
def attachLeadingBlanks : List Text → List Text
  | [] => []
  | [first] => if first.all CodePoint.isBlank then [] else [first]
  | first :: second :: words =>
      if first.all CodePoint.isBlank then (first ++ second) :: words else first :: second :: words

/-- The words of a line, each with the blanks behind it. -/
def wordsOf (line : Text) : List Text := attachLeadingBlanks (line.foldr wordStep [])

/-- Cut a text into pieces of at most `width` columns.  The last piece is kept in reverse with its
columns, and the pieces before it in reverse order. -/
def foldStep (width : Nat) (state : List Text × Text × Nat) (c : CodePoint) :
    List Text × Text × Nat :=
  let (pieces, piece, columns) := state
  if width < columns + c.columns then (piece.reverse :: pieces, [c], c.columns)
  else (pieces, c :: piece, columns + c.columns)

/-- Cut a text into pieces of at most `width` columns. -/
def foldWord (width : Nat) (word : Text) : List Text :=
  let (pieces, piece, _) := word.foldl (foldStep width) ([], [], 0)
  (piece.reverse :: pieces).reverse

/-! ## Breaking lines -/

/-- The lines of a paragraph so far: those that are complete, in reverse, the current one, and the
columns it takes. -/
structure Breaking where
  complete : List Text := []
  current : Text := []
  columns : Nat := 0

namespace Breaking

/-- Whether nothing is placed yet. -/
def isEmpty (state : Breaking) : Bool := state.complete.isEmpty && state.current.isEmpty

/-- Begin a line with a text, unless nothing is placed yet. -/
def startLine (state : Breaking) (text : Text) : Breaking :=
  { complete := if state.isEmpty then [] else state.current :: state.complete
    current := text
    columns := Text.columns text }

/-- Place a text on the current line. -/
def place (state : Breaking) (text : Text) : Breaking :=
  { state with
    current := state.current ++ text
    columns := state.columns + Text.columns text }

/-- Place a word.  The blanks behind it never cause a break. -/
def addWord (width : Nat) (state : Breaking) (word : Text) : Breaking :=
  let columns := Text.columns (Text.trimEnd CodePoint.isBlank word)
  if state.columns + columns ≤ width then state.place word
  else if width < columns then (foldWord width word).foldl startLine state
  else state.startLine word

/-- All lines. -/
def lines (state : Breaking) : List Text := (state.current :: state.complete).reverse

end Breaking

/-- Break a line between words, and words that are too wide anywhere.  A line without words is not
broken. -/
def breakLine (width : Nat) (line : Text) : List Text :=
  match wordsOf line with
  | [] => [line]
  | words => (words.foldl (Breaking.addWord width) {}).lines

/-- Drop blanks at the end that reach beyond the width; every code point counts one here. -/
def cropBlanks (width : Nat) (line : Text) : Text :=
  let blanks := (line.reverse.takeWhile CodePoint.isBlank).length
  line.take (line.length - min blanks (line.length - width))

/-- Halve the span in which a beginning ends that fills the width, until one is found.  The first
one that is met is taken, whether or not columnless code points follow it, and a blank stands for
the half of a wide code point that is cut. -/
def bisectCut (width : Nat) (line : Text) (start stop : Nat) : Text :=
  let middle := (start + stop) / 2
  let beginning := line.take (middle + 1)
  let columns := Text.columns beginning
  if columns = width then beginning
  else if columns = width + 1 ∧ (beginning.getLast?.map CodePoint.columns) = some 2 then
    beginning.dropLast ++ [CodePoint.ofChar ' ']
  else if width < columns then
    if start < stop then bisectCut width line start middle else beginning
  else if start < middle then bisectCut width line middle stop
  else beginning
termination_by stop - start
decreasing_by all_goals omega

/-- Cut a line to a number of columns. -/
def cutToWidth (width : Nat) (line : Text) : Text :=
  if Text.columns line ≤ width then line
  else if width = 0 then []
  else bisectCut width line 0 line.length

/-- Lay out one line of a text. -/
def wrapLine (width : Nat) (line : Text) : List Text :=
  let expanded := if line.contains (CodePoint.ofChar '\t') then expandTabs line else line
  (breakLine width expanded).map fun line => cutToWidth width (cropBlanks width line)

/-- Lay out a text; every line feed ends a line, also at the end of the text.  A terminal without
columns shows nothing. -/
def wrap (width : Nat) (text : Text) : List Text :=
  if width = 0 then []
  else (Text.splitOn Text.lineFeed (dropControls text)).flatMap (wrapLine width)

/-- Lines as they are printed. -/
def unlines (lines : List Text) : Text := lines.flatMap fun line => line ++ [Text.lineFeed]

/-- What printing a text writes. -/
def print (width : Nat) (text : Text) : Text := unlines (wrap width text)

end Findings.Terminal
