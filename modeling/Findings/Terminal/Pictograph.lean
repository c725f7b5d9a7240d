import Findings.Terminal.PictographNames
import Findings.Text.Blank
import Findings.Text.Lower

/-!
Contract: pictographs that a text mentions by name.

Owns: the replacement of a name between two colons by its pictograph.
-/

set_option autoImplicit false

namespace Findings.Terminal

/-- The mark that ends every mention of a pictograph, and begins it. -/
def colon : CodePoint := CodePoint.ofChar ':'

/-- The endings of a mention that ask for one presentation, and the selectors they stand for. -/
def presentations : List (Text × CodePoint) :=
  [("-emoji", CodePoint.ofNat 0xFE0F), ("-text", CodePoint.ofNat 0xFE0E)]

/-- The name in a mention and the selector it asks for. -/
def splitPresentation (mention : Text) : Text × Text :=
  let found := presentations.findSome? fun (ending, selector) =>
    if ending.isSuffixOf mention then
      some (mention.take (mention.length - ending.length), [selector])
    else none
  found.getD (mention, [])

/-- What is printed for a mention.  Capitals count as small letters. -/
def mentioned? (mention : Text) : Option Text :=
  (pictograph? (splitPresentation mention).1.toSmall).map fun pictograph =>
    pictograph ++ (splitPresentation mention).2

/-- Whether a character can stand in a mention. -/
def isMentionCharacter (c : CodePoint) : Bool := c ≠ colon && !c.isBlank

/-- The mention behind its first colon, and the text behind its last one. -/
def readMention? (text : Text) : Option (Text × Text) :=
  match text.dropWhile isMentionCharacter with
  | [] => none
  | c :: rest => if c = colon then some (text.takeWhile isMentionCharacter, rest) else none

theorem readMention?_length {text mention rest : Text}
    (read : readMention? text = some (mention, rest)) : rest.length < text.length := by
  unfold readMention? at read
  have shorter := Text.length_dropWhile_le isMentionCharacter text
  split at read
  · cases read
  · rename_i dropped
    rw [dropped] at shorter
    simp only [List.length_cons] at shorter
    split at read
    · cases read
      omega
    · cases read

/-- Replace all mentions.  A mention of no known name stays, and its last colon begins no other. -/
def replaceMentions : (text : Text) → Text
  | [] => []
  | c :: rest =>
      if c = colon then
        match _mention : readMention? rest with
        | none => c :: replaceMentions rest
        | some (mention, after) =>
            (mentioned? mention).getD (c :: mention ++ [c]) ++ replaceMentions after
      else c :: replaceMentions rest
termination_by text => text.length
decreasing_by
  · simp
  · have := readMention?_length _mention
    simp only [List.length_cons]
    omega
  · simp

end Findings.Terminal
