import Findings.Terminal.Handler
import Findings.Terminal.Pictograph
import Findings.Terminal.Style
import Findings.Terminal.Wrap

/-!
Contract: marked-up text.

Owns: the tags of a text, which stand in brackets, the text that is printed without them, and the
styles of its parts, which can be faulty.

A tag begins with a small letter or one of `#`, `/` and `@`, and `/` begins a closing tag.  Brackets
around anything else are text.  Backslashes in front of a tag stand for half as many, and an odd one
turns the tag into text.  Behind an equals sign stands what a tag is given: more words of its style, or
a handler if the tag begins with `@`.
-/

set_option autoImplicit false

namespace Findings.Terminal

/-- Why a text cannot be printed: a closing tag does not fit, a tag names no handler, or a colour in a
style is no colour. -/
inductive MarkupFault where
  | noSuchTag (tag : Text) (position : Nat)
  | nothingToClose (position : Nat)
  | handler (fault : HandlerFault)
  | colour (fault : Numeral.Fault)

def MarkupFault.message : MarkupFault → Text
  | .noSuchTag tag position =>
      Text.ofString "closing tag '[" ++ tag ++ Text.ofString "]' at position "
        ++ Text.ofNat position ++ Text.ofString " doesn't match any open tag"
  | .nothingToClose position =>
      Text.ofString "closing tag '[/]' at position " ++ Text.ofNat position
        ++ Text.ofString " has nothing to close"
  | .handler fault => fault.message
  | .colour fault => fault.message

/-! ## Tags -/

/-- A part of a marked-up text: plain text, or what a tag at a position holds. -/
inductive Piece where
  | plain (text : Text)
  | tag (content : Text) (position : Nat)
deriving DecidableEq

/-- The characters that a tag can begin with. -/
def isTagStart (c : CodePoint) : Bool := c.isLower || c = '#' || c = '/' || c = '@'

def isBracket (c : CodePoint) : Bool := c = '[' || c = ']'

/-- What a tag holds behind its opening bracket, and the text behind its closing one. -/
def readTag? (text : Text) : Option (Text × Text) :=
  if text.head?.any isTagStart then
    match text.dropWhile fun c => !isBracket c with
    | [] => none
    | c :: rest =>
        if c = ']' then some (text.takeWhile fun c => !isBracket c, rest) else none
  else none

/-- The backslashes at the front of a text, if there is a tag behind them: their number, what the
tag holds and the text behind the tag. -/
def readEscapedTag? (text : Text) : Option (Nat × Text × Text) :=
  match text.dropWhile (· = CodePoint.ofChar '\\') with
  | [] => none
  | c :: rest =>
      if c = '[' then
        (readTag? rest).map fun (content, after) =>
          ((text.takeWhile (· = CodePoint.ofChar '\\')).length, content, after)
      else none

theorem readTag?_length_le {text content rest : Text}
    (read : readTag? text = some (content, rest)) : rest.length ≤ text.length := by
  unfold readTag? at read
  have shorter := Text.length_dropWhile_le (fun c => !isBracket c) text
  split at read
  · split at read
    · cases read
    · rename_i dropped
      rw [dropped] at shorter
      simp only [List.length_cons] at shorter
      split at read
      · cases read
        omega
      · cases read
  · cases read

theorem readEscapedTag?_length {text content rest : Text} {count : Nat}
    (read : readEscapedTag? text = some (count, content, rest)) : rest.length < text.length := by
  unfold readEscapedTag? at read
  have shorter := Text.length_dropWhile_le (· = CodePoint.ofChar '\\') text
  split at read
  · cases read
  · rename_i dropped
    rw [dropped] at shorter
    simp only [List.length_cons] at shorter
    split at read
    · obtain ⟨pair, tag, equal⟩ := Option.map_eq_some_iff.1 read
      have := readTag?_length_le tag
      simp only [Prod.mk.injEq] at equal
      rw [equal.2.2] at this
      omega
    · cases read

/-- A piece of text unless it is empty. -/
def plainUnlessEmpty : (text : Text) → List Piece
  | [] => []
  | text => [.plain text]

/-- The pieces of a tag with backslashes in front. -/
def piecesOfTag (position count : Nat) (content : Text) : List Piece :=
  plainUnlessEmpty (Text.replicate (count / 2) (CodePoint.ofChar '\\'))
    ++ if count % 2 = 0 then [.tag content (position + count)]
      else [.plain (CodePoint.ofChar '[' :: content ++ [CodePoint.ofChar ']'])]

/-- The pieces of a text that begins at a position; `before` is plain text in front of it, in
reverse. -/
def piecesFrom (position : Nat) (before : Text) : (text : Text) → List Piece
  | [] => plainUnlessEmpty before.reverse
  | c :: rest =>
      match _tag : readEscapedTag? (c :: rest) with
      | some (count, content, after) =>
          plainUnlessEmpty before.reverse ++ piecesOfTag position count content
            ++ piecesFrom (position + count + content.length + 2) [] after
      | none => piecesFrom (position + 1) (c :: before) rest
termination_by text => text.length
decreasing_by
  · exact readEscapedTag?_length _tag
  · simp

/-- The pieces of a text. -/
def piecesOf (text : Text) : List Piece := piecesFrom 0 [] text

/-! ## Printing -/

/-- Plain text as it is printed: a backslash in front of a bracket is left out, and mentioned
pictographs are put in. -/
def unescaped : Text → Text
  | [] => []
  | [c] => [c]
  | c :: d :: rest =>
      if c = '\\' ∧ d = '[' then d :: unescaped rest else c :: unescaped (d :: rest)

/-- The name of a tag, which ends before an equals sign. -/
def tagName (content : Text) : Text := content.takeWhile (· ≠ CodePoint.ofChar '=')

/-- What a tag is given behind its equals sign. -/
def tagGiven? (content : Text) : Option Text :=
  match content.dropWhile (· ≠ CodePoint.ofChar '=') with
  | [] => none
  | _ :: given => some given

/-- A tag that is open: its name in normal form, what it is given, and the length of the printed text
in front of it. -/
structure OpenTag where
  name : Text
  given : Option Text
  start : Nat
deriving DecidableEq

namespace OpenTag

/-- Open a tag behind a printed text. -/
def ofContent (content : Text) (start : Nat) : Except MarkupFault OpenTag :=
  match normalStyleName (tagName content) with
  | .ok name => .ok { name := name, given := tagGiven? content, start := start }
  | .error fault => .error (.colour fault)

/-- Whether a tag names a handler. -/
def namesHandler (tag : OpenTag) : Bool := tag.name.head? = some (CodePoint.ofChar '@')

/-- The style under which a tag puts a part of a text. -/
def style (tag : OpenTag) : Text :=
  match tag.given with
  | none => tag.name
  | some given => tag.name ++ Text.ofString " " ++ given

end OpenTag

/-- A part of a printed text under a style. -/
structure Span where
  start : Nat
  stop : Nat
  style : Text
deriving DecidableEq

/-- The part of a text that a tag puts under its style. -/
def OpenTag.span (tag : OpenTag) (stop : Nat) : Span where
  start := tag.start
  stop := stop
  style := tag.style

/-- What is printed so far: the text, the open tags and the parts under styles, the last ones
first. -/
structure Printing where
  text : Text := []
  opened : List OpenTag := []
  spans : List Span := []

namespace Printing

/-- Print plain text. -/
def addPlain (state : Printing) (text : Text) : Printing :=
  { state with text := state.text ++ dropControls (replaceMentions (unescaped text)) }

/-- Open a tag. -/
def openTag (state : Printing) (content : Text) : Except MarkupFault Printing :=
  (OpenTag.ofContent content state.text.length).map fun tag =>
    { state with opened := tag :: state.opened }

/-- The open tag that a closing tag closes: the last of its name, or the last one of all. -/
def tagToClose (state : Printing) (content : Text) (position : Nat) :
    Except MarkupFault OpenTag :=
  let name := Text.trimBlank ((tagName content).drop 1)
  if name = [] then
    match state.opened with
    | [] => .error (.nothingToClose position)
    | tag :: _ => .ok tag
  else
    match normalStyleName name with
    | .error fault => .error (.colour fault)
    | .ok name =>
        match state.opened.find? fun tag => tag.name = name with
        | some tag => .ok tag
        | none => .error (.noSuchTag content position)

/-- Close a tag.  A handler is looked at only now. -/
def closeTag (state : Printing) (content : Text) (position : Nat) :
    Except MarkupFault Printing := do
  let tag ← state.tagToClose content position
  let closed := { state with opened := state.opened.erase tag }
  if tag.namesHandler then
    let given := tag.given.getD []
    unless given = [] do
      (checkHandler given).mapError .handler
    return closed
  else return { closed with spans := tag.span state.text.length :: state.spans }

/-- Print a piece. -/
def addPiece (state : Printing) : Piece → Except MarkupFault Printing
  | .plain text => .ok (state.addPlain text)
  | .tag content position =>
      if content.head? = some (CodePoint.ofChar '/') then state.closeTag content position
      else state.openTag content

/-- The parts under styles at the end of the text, where open tags end too, in the order of their
beginnings. -/
def allSpans (state : Printing) : List Span :=
  let unclosed := state.opened.map fun tag => tag.span state.text.length
  (unclosed.reverse ++ state.spans).mergeSort fun left right => decide (left.start ≤ right.start)

end Printing

/-- A printed text with its parts under styles. -/
structure Printed where
  text : Text
  spans : List Span

/-- What is printed of a marked-up text. -/
def Printed.ofMarkup (markup : Text) : Except MarkupFault Printed :=
  ((piecesOf markup).foldlM Printing.addPiece {}).map fun state =>
    { text := state.text, spans := state.allSpans }

/-- The first fault of a style.  The styles of empty parts are looked at only if the text is one line
that is laid out as it is. -/
def Printed.colourFault? (printed : Printed) (width : Nat) : Option Numeral.Fault :=
  let whole := wrap width printed.text = [printed.text]
  (printed.spans.filter fun span => whole || decide (span.start < span.stop)).findSome?
    fun span => styleFault? span.style

/-- What a marked-up text looks like on a terminal of a width. -/
def printMarkup (width : Nat) (markup : Text) : Except MarkupFault Text := do
  let printed ← Printed.ofMarkup markup
  match printed.colourFault? width with
  | some fault => .error (.colour fault)
  | none => return print width printed.text

end Findings.Terminal
