import Findings.Entries
import Findings.Number.Binary64
import Findings.Text.Lines
import Findings.Text.Quoted

/-!
Contract: the values of TOML and the faults of TOML text.

Owns: the type `Value`, keys, and the failures of reading with their wording and place.

The language is TOML 1.0.  Text is taken with line feeds as its only line ends.
-/

set_option autoImplicit false

namespace Findings.Toml

/-- A value of a document.  Dates and times are kept as they are written. -/
inductive Value where
  | text (value : Text)
  | bool (value : Bool)
  | integer (value : Int)
  | real (value : Binary64)
  | moment (written : Text)
  | array (items : List Value)
  | table (members : List (Text × Value))

instance : Inhabited Value := ⟨.bool false⟩

/-- Whether a value holds other values. -/
def Value.isContainer : Value → Bool
  | .array _ | .table _ => true
  | _ => false

/-- The text of a text value. -/
def Value.text? : Value → Option Text
  | .text value => some value
  | _ => none

/-- The truth value of a boolean value. -/
def Value.bool? : Value → Option Bool
  | .bool value => some value
  | _ => none

/-- The members of a table. -/
def Value.table? : Value → Option (Entries Value)
  | .table members => some members
  | _ => none

/-- A key is a sequence of names; a dotted key has more than one. -/
abbrev Key := List Text

/-- A key as a fault shows it. -/
def Key.shown : Key → Text
  | [name] => Text.ofString "(" ++ Text.quoted name ++ Text.ofString ",)"
  | names =>
      Text.ofString "(" ++ Text.join (Text.ofString ", ") (names.map Text.quoted)
        ++ Text.ofString ")"

/-- Why a text is not a TOML document. -/
inductive Fault where
  | expectedLineEnd
  | invalidStatement
  | declaredTwice (key : Key)
  | overwrittenValue
  | expectedTableEnd
  | expectedTableArrayEnd
  | immutableNamespace (key : Key)
  | redefinedNamespace (key : Key)
  | expectedEquals
  | invalidKeyStart
  | unclosedArray
  | unclosedInlineTable
  | duplicateInlineKey (name : Text)
  | unescapedBackslash
  | invalidHexValue
  | notScalarValue
  | unterminatedString
  | illegalCharacter (c : CodePoint)
  | invalidCharacter (c : CodePoint)
  | expectedDelimiter (delimiter : Text)
  | invalidDate
  | invalidValue
deriving DecidableEq

def Fault.message : Fault → Text
  | .expectedLineEnd => "Expected newline or end of document after a statement"
  | .invalidStatement => "Invalid statement"
  | .declaredTwice key => Text.ofString "Cannot declare " ++ key.shown ++ Text.ofString " twice"
  | .overwrittenValue => "Cannot overwrite a value"
  | .expectedTableEnd => "Expected ']' at the end of a table declaration"
  | .expectedTableArrayEnd => "Expected ']]' at the end of an array declaration"
  | .immutableNamespace key => Text.ofString "Cannot mutate immutable namespace " ++ key.shown
  | .redefinedNamespace key => Text.ofString "Cannot redefine namespace " ++ key.shown
  | .expectedEquals => "Expected '=' after a key in a key/value pair"
  | .invalidKeyStart => "Invalid initial character for a key part"
  | .unclosedArray => "Unclosed array"
  | .unclosedInlineTable => "Unclosed inline table"
  | .duplicateInlineKey name => Text.ofString "Duplicate inline table key " ++ Text.quoted name
  | .unescapedBackslash => "Unescaped '\\' in a string"
  | .invalidHexValue => "Invalid hex value"
  | .notScalarValue => "Escaped character is not a Unicode scalar value"
  | .unterminatedString => "Unterminated string"
  | .illegalCharacter c => Text.ofString "Illegal character " ++ Text.quoted [c]
  | .invalidCharacter c => Text.ofString "Found invalid character " ++ Text.quoted [c]
  | .expectedDelimiter delimiter => Text.ofString "Expected " ++ Text.quoted delimiter
  | .invalidDate => "Invalid date or datetime"
  | .invalidValue => "Invalid value"

/-- Why reading stops: a fault with the text from the faulty place on, or a decimal integer of too
many digits. -/
inductive Stop where
  | fault (fault : Fault) (place : Text)
  | excessiveInteger (digits : Nat)

/-- Why a document cannot be read.  A fault at the very end has no place. -/
inductive ReadError where
  | malformed (fault : Fault) (place : Option Text.Place)
  | excessiveInteger (digits : Nat)
deriving DecidableEq

/-- The error of a stop within the whole text. -/
def Stop.toError (whole : Text) : Stop → ReadError
  | .fault cause [] => .malformed cause none
  | .fault cause rest => .malformed cause (some (Text.placeOf whole rest))
  | .excessiveInteger digits => .excessiveInteger digits

/-- The wording of a place. -/
def shownPlace : Option Text.Place → Text
  | none => "end of document"
  | some place =>
      Text.ofString "line " ++ Text.ofNat place.line ++ Text.ofString ", column "
        ++ Text.ofNat place.column

/-- The wording of a fault at a place. -/
def faultMessage (fault : Fault) (place : Option Text.Place) : Text :=
  fault.message ++ Text.ofString " (at " ++ shownPlace place ++ Text.ofString ")"

/-- What reading a part gives: the part and the text behind it. -/
abbrev Read (α : Type) := Except Stop (α × Text)

/-! ## Characters -/

/-- The blanks within a line. -/
def isBlank (c : CodePoint) : Bool := c.val = 0x20 || c.val = 0x09

/-- The blanks between the items of an array. -/
def isBlankOrNewline (c : CodePoint) : Bool := isBlank c || c.val = 0x0A

/-- The controls of ASCII, which stand nowhere unless a rule names them. -/
def isControl (c : CodePoint) : Bool := decide (c.val < 0x20) || c.val = 0x7F

/-- The controls that neither a line of a string nor a comment may hold. -/
def isLineControl (c : CodePoint) : Bool := isControl c && c.val ≠ 0x09

/-- The controls that no string may hold. -/
def isTextControl (c : CodePoint) : Bool := isLineControl c && c.val ≠ 0x0A

/-- The characters of a key without quotes. -/
def isBareKeyCharacter (c : CodePoint) : Bool :=
  c.isAlphanumeric || c = '-' || c = '_'

/-- The characters that a key can begin with. -/
def isKeyStart (c : CodePoint) : Bool := isBareKeyCharacter c || c = '"' || c = '\x27'

/-! ## Comments -/

/-- Skip a comment, if there is one.  It ends before the line feed. -/
def skipComment (text : Text) : Except Stop Text :=
  match text with
  | [] => .ok []
  | c :: rest =>
      if c = '#' then
        match rest.dropWhile fun c => !isLineControl c with
        | [] => .ok []
        | control :: after =>
            if control = Text.lineFeed then .ok (control :: after)
            else .error (.fault (.invalidCharacter control) (control :: after))
      else .ok (c :: rest)

/-- Skip blanks, line feeds and comments. -/
def skipFiller (text : Text) : Except Stop Text :=
  match _blanks : text.dropWhile isBlankOrNewline with
  | [] => .ok []
  | c :: rest =>
      if c = '#' then
        match _comment : rest.dropWhile fun c => !isLineControl c with
        | [] => .ok []
        | control :: after =>
            if control = Text.lineFeed then skipFiller after
            else .error (.fault (.invalidCharacter control) (control :: after))
      else .ok (c :: rest)
termination_by text.length
decreasing_by
  have blanks := Text.length_dropWhile_le isBlankOrNewline text
  have comment := Text.length_dropWhile_le (fun c => !isLineControl c) rest
  rw [_blanks] at blanks
  rw [_comment] at comment
  simp only [List.length_cons] at blanks comment
  omega

theorem skipComment_length_le {text rest : Text} (read : skipComment text = .ok rest) :
    rest.length ≤ text.length := by
  unfold skipComment at read
  split at read
  · cases read; exact Nat.le_refl _
  · rename_i after
    split at read
    · have shorter := Text.length_dropWhile_le (fun c => !isLineControl c) after
      split at read
      · cases read; simp
      · rename_i afterComment
        rw [afterComment] at shorter
        split at read
        · cases read
          simp only [List.length_cons] at shorter ⊢
          omega
        · cases read
    · cases read; exact Nat.le_refl _

theorem skipFiller_length_le {text rest : Text} (read : skipFiller text = .ok rest) :
    rest.length ≤ text.length := by
  fun_induction skipFiller text with
  | case1 => cases read; exact Nat.zero_le _
  | case2 => cases read; exact Nat.zero_le _
  | case3 =>
      rename_i text after rest blanks comment inductionHypothesis
      have blanksShorter := Text.length_dropWhile_le isBlankOrNewline text
      rw [blanks] at blanksShorter
      have commentShorter := Text.length_dropWhile_le (fun c => !isLineControl c) after
      rw [comment] at commentShorter
      simp only [List.length_cons] at blanksShorter commentShorter
      have := inductionHypothesis read
      omega
  | case4 => cases read
  | case5 =>
      rename_i text _ _ blanks _
      have blanksShorter := Text.length_dropWhile_le isBlankOrNewline text
      rw [blanks] at blanksShorter
      cases read
      exact blanksShorter

end Findings.Toml
