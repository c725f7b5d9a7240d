import Findings.Entries
import Findings.Number.Numeral
import Findings.Text.Lower

/-!
Contract: the names of text styles.

Owns: the normal form of a style's name, under which a closing mark finds the one that it closes, and
the faults of a name whose colour is mixed of parts that are no numerals.

A style names attributes, a colour, a colour of the ground and a link, in any order.  Its normal form
names them in one order and without abbreviations.  A name that is no style stays as it is, in small
letters.
-/

set_option autoImplicit false

namespace Findings.Terminal

/-- The attributes in the order of a normal form. -/
def attributeNames : List Text :=
  ["bold", "dim", "italic", "underline", "blink", "blink2", "reverse", "conceal", "strike",
    "underline2", "frame", "encircle", "overline"]

/-- The short names of some attributes. -/
def attributeAbbreviations : List (Text × Text) :=
  [("d", "dim"), ("b", "bold"), ("i", "italic"), ("u", "underline"), ("r", "reverse"),
    ("c", "conceal"), ("s", "strike"), ("uu", "underline2"), ("o", "overline")]

/-- The attribute of a word. -/
def attribute? (word : Text) : Option Text :=
  if attributeNames.contains word then some word else Entries.find? word attributeAbbreviations

/-! ## Colours -/

/-- The words of a text. -/
def blankSeparated (text : Text) : List Text :=
  (Text.splitOn (CodePoint.ofChar ' ')
    (text.map fun c => if c.isBlank then CodePoint.ofChar ' ' else c)).filter (· ≠ [])

/-- The colours that have names. -/
def colourNames : List String := [
  "black red green yellow blue magenta cyan white bright_black bright_red bright_green",
  "bright_yellow bright_blue bright_magenta bright_cyan bright_white grey0 gray0 navy_blue",
  "dark_blue blue3 blue1 dark_green deep_sky_blue4 dodger_blue3 dodger_blue2 green4",
  "spring_green4 turquoise4 deep_sky_blue3 dodger_blue1 green3 spring_green3 dark_cyan",
  "light_sea_green deep_sky_blue2 deep_sky_blue1 spring_green2 cyan3 dark_turquoise turquoise2",
  "green1 spring_green1 medium_spring_green cyan2 cyan1 dark_red deep_pink4 purple4 purple3",
  "blue_violet orange4 grey37 gray37 medium_purple4 slate_blue3 royal_blue1 chartreuse4",
  "dark_sea_green4 pale_turquoise4 steel_blue steel_blue3 cornflower_blue chartreuse3",
  "cadet_blue sky_blue3 steel_blue1 pale_green3 sea_green3 aquamarine3 medium_turquoise",
  "chartreuse2 sea_green2 sea_green1 aquamarine1 dark_slate_gray2 dark_magenta dark_violet",
  "purple light_pink4 plum4 medium_purple3 slate_blue1 yellow4 wheat4 grey53 gray53",
  "light_slate_grey light_slate_gray medium_purple light_slate_blue dark_olive_green3",
  "dark_sea_green light_sky_blue3 sky_blue2 dark_sea_green3 dark_slate_gray3 sky_blue1",
  "chartreuse1 light_green pale_green1 dark_slate_gray1 red3 medium_violet_red magenta3",
  "dark_orange3 indian_red hot_pink3 medium_orchid3 medium_orchid medium_purple2 dark_goldenrod",
  "light_salmon3 rosy_brown grey63 gray63 medium_purple1 gold3 dark_khaki navajo_white3 grey69",
  "gray69 light_steel_blue3 light_steel_blue yellow3 dark_sea_green2 light_cyan3",
  "light_sky_blue1 green_yellow dark_olive_green2 dark_sea_green1 pale_turquoise1 deep_pink3",
  "magenta2 hot_pink2 orchid medium_orchid1 orange3 light_pink3 pink3 plum3 violet",
  "light_goldenrod3 tan misty_rose3 thistle3 plum2 khaki3 light_goldenrod2 light_yellow3 grey84",
  "gray84 light_steel_blue1 yellow2 dark_olive_green1 honeydew2 light_cyan1 red1 deep_pink2",
  "deep_pink1 magenta1 orange_red1 indian_red1 hot_pink dark_orange salmon1 light_coral",
  "pale_violet_red1 orchid2 orchid1 orange1 sandy_brown light_salmon1 light_pink1 pink1 plum1",
  "gold1 navajo_white1 misty_rose1 thistle1 yellow1 light_goldenrod1 khaki1 wheat1 cornsilk1",
  "grey100 gray100 grey3 gray3 grey7 gray7 grey11 gray11 grey15 gray15 grey19 gray19 grey23",
  "gray23 grey27 gray27 grey30 gray30 grey35 gray35 grey39 gray39 grey42 gray42 grey46 gray46",
  "grey50 gray50 grey54 gray54 grey58 gray58 grey62 gray62 grey66 gray66 grey70 gray70 grey74",
  "gray74 grey78 gray78 grey82 gray82 grey85 gray85 grey89 gray89 grey93 gray93"]

/-- Whether a colour has this name. -/
def isColourName (word : Text) : Bool :=
  word = Text.ofString "default" ||
    colourNames.any fun line => (blankSeparated (Text.ofString line)).contains word

/-- Six hexadecimal digits in small letters behind a number sign. -/
def isHexColour : Text → Bool
  | [] => false
  | c :: digits =>
      c = '#' && digits.length == 6 && digits.all fun d => d.isDigit || d.within 0x61 0x66

/-- The arguments of a word that is written like a call of a function. -/
def arguments? (function word : Text) : Option Text :=
  (Text.after? (function ++ [CodePoint.ofChar '(']) word).bind fun rest =>
    if rest.getLast? = some (CodePoint.ofChar ')') then some rest.dropLast else none

/-- The largest number of a colour, and of its part of red, green or blue. -/
def maxColour : Nat := 255

/-- A colour by its number. -/
def isNumberedColour (word : Text) : Bool :=
  match arguments? "color" word with
  | some digits =>
      digits ≠ [] && decide (digits.length ≤ 3) && digits.all CodePoint.isDigit
        && decide (Text.natValue digits ≤ maxColour)
  | none => false

/-- Whether a code point can stand between the brackets of a mixed colour. -/
def isMixturePart (c : CodePoint) : Bool := c.decimalValue?.isSome || c.isBlank || c = ','

/-- Whether a text mixes a colour of red, green and blue.  The parts are read as numerals before
their values count. -/
def isMixture (text : Text) : Except Numeral.Fault Bool :=
  match Text.splitOn (CodePoint.ofChar ',') text with
  | [red, green, blue] => do
      let red ← Numeral.natural red
      let green ← Numeral.natural green
      let blue ← Numeral.natural blue
      return [red, green, blue].all fun part => decide (part ≤ maxColour)
  | _ => .ok false

/-- A colour by its parts of red, green and blue. -/
def isMixedColour (word : Text) : Except Numeral.Fault Bool :=
  match arguments? "rgb" word with
  | some parts => if parts.all isMixturePart then isMixture parts else .ok false
  | none => .ok false

/-- Whether a word in small letters is a colour. -/
def isColour (word : Text) : Except Numeral.Fault Bool :=
  if isColourName word || isHexColour word || isNumberedColour word then .ok true
  else isMixedColour word

/-! ## Styles -/

structure Style where
  /-- The attributes that are switched on or off. -/
  attributes : Entries Bool := []
  colour : Option Text := none
  ground : Option Text := none
  link : Option Text := none
deriving DecidableEq

/-- Why words name no style: they do not, or a part of a colour is no numeral. -/
inductive StyleFault where
  | noStyle
  | numeral (fault : Numeral.Fault)
deriving DecidableEq

namespace Style

/-- The colour of a word, in small letters. -/
def colourOf (word : Text) : Except StyleFault Text :=
  match isColour word.toSmall with
  | .error fault => .error (.numeral fault)
  | .ok true => .ok word.toSmall
  | .ok false => .error .noStyle

/-- A style with an attribute or a colour more, which a word names. -/
def addWord (style : Style) (word : Text) : Except StyleFault Style :=
  match attribute? word.toSmall with
  | some known => .ok { style with attributes := Entries.insert known true style.attributes }
  | none => (colourOf word).map fun colour => { style with colour := some colour }

/-- The style of some words, in addition to a style. -/
def ofWords (style : Style) : List Text → Except StyleFault Style
  | [] => .ok style
  | [word] => style.addWord word
  | word :: next :: rest =>
      if word.toSmall = Text.ofString "on" then
        match colourOf next with
        | .ok colour => ofWords { style with ground := some colour } rest
        | .error fault => .error fault
      else if word.toSmall = Text.ofString "not" then
        match attribute? next with
        | some known =>
            ofWords { style with attributes := Entries.insert known false style.attributes }
              rest
        | none => .error .noStyle
      else if word.toSmall = Text.ofString "link" then
        ofWords { style with link := some next } rest
      else
        match style.addWord word with
        | .ok style => ofWords style (next :: rest)
        | .error fault => .error fault

/-- The words of a style in its normal form. -/
def words (style : Style) : List Text :=
  (attributeNames.flatMap fun name =>
      match Entries.find? name style.attributes with
      | some true => [name]
      | some false => [Text.ofString "not", name]
      | none => [])
    ++ style.colour.toList
    ++ (style.ground.map fun colour => [Text.ofString "on", colour]).getD []
    ++ (style.link.map fun target => [Text.ofString "link", target]).getD []

end Style

/-- Whether the name of a style names nothing. -/
def namesNothing (name : Text) : Bool :=
  name.trimBlank = [] || name.trimBlank = Text.ofString "none"

/-- The normal form of the name of a style. -/
def normalStyleName (name : Text) : Except Numeral.Fault Text :=
  if namesNothing name then .ok "none"
  else
    match Style.ofWords {} (blankSeparated name) with
    | .ok style => .ok (Text.join (Text.ofString " ") style.words)
    | .error .noStyle => .ok name.trimBlank.toSmall
    | .error (.numeral fault) => .error fault

/-- The fault of a colour that a style names; a name that is no style has none. -/
def styleFault? (name : Text) : Option Numeral.Fault :=
  if namesNothing name then none
  else
    match Style.ofWords {} (blankSeparated name) with
    | .error (.numeral fault) => some fault
    | _ => none

end Findings.Terminal
