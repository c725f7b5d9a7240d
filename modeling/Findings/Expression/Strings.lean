import Findings.Expression.Fault
import Findings.Expression.Node

/-!
Contract: the strings of an expression.

Owns: what the letters in front of a string say, the escapes in it, and the replacement fields of
formatted strings, which hold expressions in braces.

Does not own: reading the expression in a field, which is a parameter here.
-/

set_option autoImplicit false

namespace Findings.Expression

/-! ## Escapes -/

/-- A text in ASCII: code points beyond are escapes, and a backslash in front of one is an escape
too. -/
def spelledOut : Text → Text
  | [] => []
  | [c] => spelledPoint c
  | c :: d :: rest =>
      if c = '\\' then
        if 0x80 ≤ d.val then Text.ofString "\\u005c" ++ spelledPoint d ++ spelledOut rest
        else c :: d :: spelledOut rest
      else spelledPoint c ++ spelledOut (d :: rest)
where
  spelledPoint (c : CodePoint) : Text :=
    if 0x80 ≤ c.val then Text.ofString "\\U" ++ Text.hexadecimal 8 c.val else [c]

/-- The number of hexadecimal digits behind the letter of an escape. -/
def escapeDigits? (letter : CodePoint) : Option Nat :=
  if letter = 'x' then some 2
  else if letter = 'u' then some 4
  else if letter = 'U' then some 8
  else none

/-- The value of hexadecimal digits. -/
def hexadecimalValue (digits : Text) : Nat :=
  digits.foldl (fun value c => value * 16 + c.hexValue?.getD 0) 0

/-- The fault of an escape of a number: `start` is its place, and `rest` is what follows the
letter. -/
def numberFault? (letter : CodePoint) (count start : Nat) (rest : Text) : Option EscapeFault :=
  let digits := (rest.take count).takeWhile fun c => c.hexValue?.isSome
  if digits.length < count then
    some (.truncated letter count start (start + 2 + digits.length))
  else if 0x110000 ≤ hexadecimalValue digits then some (.noCodePoint start (start + 2 + count))
  else none

/-- The fault of an escape of a name, which stands in braces and is not empty.  There is no table of the
names: each of them passes here, also one that names no character and that such an escape refuses. -/
def nameEscapeFault? (start : Nat) : (rest : Text) → Option EscapeFault
  | [] => some (.malformedName start (start + 2))
  | c :: rest =>
      let name := rest.takeWhile (· ≠ CodePoint.ofChar '\x7d')
      if c ≠ '\x7b' then some (.malformedName start (start + 2))
      else if name = [] ∨ name.length = rest.length then
        some (.malformedName start (start + 3 + name.length))
      else none

/-- The first fault of an escape in a text that is spelled out. -/
def escapeFault? (start : Nat) : Text → Option EscapeFault
  | [] => none
  | [_] => none
  | c :: letter :: rest =>
      if c = '\\' then
        let fault := match escapeDigits? letter with
          | some count => numberFault? letter count start rest
          | none => if letter = 'N' then nameEscapeFault? start rest else none
        fault.or (escapeFault? (start + 2) rest)
      else escapeFault? (start + 1) (letter :: rest)

/-- The first fault of an escape in bytes. -/
def byteFault? (start : Nat) : Text → Option EscapeFault
  | [] => none
  | [_] => none
  | c :: letter :: rest =>
      if c = '\\' then
        if letter = 'x' ∧ ((rest.take 2).takeWhile fun c => c.hexValue?.isSome).length < 2 then
          some (.noByte start)
        else byteFault? (start + 2) rest
      else byteFault? (start + 1) (letter :: rest)

/-! ## Literals -/

/-- A string without its quotes, and what the letters in front of it say. -/
structure Literal where
  isBytes : Bool
  isRaw : Bool
  isFormatted : Bool
  content : Text

/-- The inside of quotes, which can be tripled. -/
def withoutQuotes (quoted : Text) : Text :=
  let inside := (quoted.drop 1).dropLast
  let quotes := quoted.take 1
  if 4 ≤ inside.length ∧ inside.take 2 = quotes ++ quotes then ((inside.drop 2).dropLast).dropLast
  else inside

/-- The literal that a token of a string denotes. -/
def Literal.ofToken (token : Text) : Literal :=
  let letters := (token.takeWhile fun c => !isQuote c).map CodePoint.toLower
  { isBytes := letters.contains (CodePoint.ofChar 'b')
    isRaw := letters.contains (CodePoint.ofChar 'r')
    isFormatted := letters.contains (CodePoint.ofChar 'f')
    content := withoutQuotes (token.dropWhile fun c => !isQuote c) }

/-- The fault of a literal that is not formatted. -/
def Literal.fault? (literal : Literal) : Option StringFault :=
  if literal.isBytes then
    if literal.content.any fun c => decide (0x80 ≤ c.val) then some .nonAsciiBytes
    else if literal.isRaw then none
    else (byteFault? 0 literal.content).map .escape
  else if literal.isRaw then none
  else (escapeFault? 0 (spelledOut literal.content)).map .escape

/-! ## Replacement fields -/

/-- How often fields can be nested. -/
def maxFieldLevel : Nat := 2

/-- The plain text at the front of a formatted string with the text behind it.  Doubled braces end
the first part of it, and the flag tells that more plain text can follow. -/
def plainPart (raw : Bool) (level : Nat) : Text → Except StringFault (Text × Text × Bool)
  | [] => .ok ([], [], false)
  | [c] =>
      if c = '\x7b' ∨ c = '\x7d' then
        if level = 0 ∧ c = '\x7d' then .error .singleBrace else .ok ([], [c], false)
      else .ok ([c], [], false)
  | c :: d :: rest =>
      if !raw ∧ c = '\\' ∧ d ≠ '\x7b' ∧ d ≠ '\x7d' then
        (plainBehind raw level (if d = 'N' then namedLength rest else 0) rest).map
          fun (part, behind) => (c :: d :: part, behind)
      else if c = '\x7b' ∨ c = '\x7d' then
        if level = 0 ∧ d = c then .ok ([c], rest, true)
        else if level = 0 ∧ c = '\x7d' then .error .singleBrace
        else .ok ([], c :: d :: rest, false)
      else (plainPart raw level (d :: rest)).map fun (part, behind) => (c :: part, behind)
where
  /-- How much of a text belongs to the escape of a name; braces in it are no fields. -/
  namedLength (rest : Text) : Nat :=
    if rest.head? = some (CodePoint.ofChar '\x7b') then
      (rest.takeWhile (· ≠ CodePoint.ofChar '\x7d')).length + 1
    else 1
  /-- The plain part of a text whose first `count` code points belong to it. -/
  plainBehind (raw : Bool) (level : Nat) :
      (count : Nat) → Text → Except StringFault (Text × Text × Bool)
    | 0, text => plainPart raw level text
    | _ + 1, [] => .ok ([], [], false)
    | count + 1, c :: rest =>
        (plainBehind raw level count rest).map fun (part, behind) => (c :: part, behind)

/-- Where the reading of a field's expression stands: how many code points are passed over, the
quote of the current string and whether it is tripled, and the open brackets. -/
structure FieldPlace where
  passed : Nat := 0
  string : Option (CodePoint × Bool) := none
  nested : Text := []

namespace FieldPlace

/-- One step inside a string. -/
def inString (place : FieldPlace) (quote : CodePoint) (tripled : Bool) (c : CodePoint)
    (rest : Text) : FieldPlace :=
  if c ≠ quote then place
  else if !tripled then { place with string := none }
  else if rest.take 2 = [quote, quote] then { place with passed := 2, string := none }
  else place

/-- One step to a bracket. -/
def toBracket (place : FieldPlace) (c : CodePoint) : Except StringFault FieldPlace :=
  if (closing? c).isSome then
    if maxLevel ≤ place.nested.length then .error .tooManyBrackets
    else .ok { place with nested := c :: place.nested }
  else
    match place.nested with
    | [] => .error (.unmatched c)
    | opening :: others =>
        if closing? opening = some c then .ok { place with nested := others }
        else .error (.mismatched c opening)

/-- Whether an expression in a field can end in front of a code point. -/
def endsAt (c : CodePoint) : Bool := c = '!' || c = ':' || c = '\x7d' || c = '='

/-- One step to a code point in front of a text; none where the expression ends, which it does in
front of an exclamation mark, a colon, a closing brace and an equals sign that is no part of a
comparison. -/
def step (place : FieldPlace) (c : CodePoint) (rest : Text) :
    Except StringFault (Option FieldPlace) :=
  if 0 < place.passed then .ok (some { place with passed := place.passed - 1 })
  else if c = '\\' then .error .backslash
  else
    match place.string with
    | some (quote, tripled) => .ok (some (place.inString quote tripled c rest))
    | none =>
        if isQuote c then
          if rest.take 2 = [c, c] then .ok (some { place with passed := 2, string := (c, true) })
          else .ok (some { place with string := (c, false) })
        else if c = '#' then .error .comment
        else if place.nested = [] ∧ (c = '!' ∨ c = '=' ∨ c = '<' ∨ c = '>')
            ∧ rest.head? = some (CodePoint.ofChar '=') then
          .ok (some { place with passed := 1 })
        else if place.nested = [] ∧ endsAt c then .ok none
        else if (closing? c).isSome ∨ isClosing c then (place.toBracket c).map some
        else .ok (some place)

/-- The fault of an expression whose text ends at a place. -/
def endFault? (place : FieldPlace) : Option StringFault :=
  if place.string.isSome then some .unterminated else place.nested.head?.map .unmatched

end FieldPlace

/-- Split the text behind an opening brace where its expression ends. -/
def splitField (place : FieldPlace) : Text → Except StringFault (Text × Text)
  | [] =>
      match place.endFault? with
      | some fault => .error fault
      | none => .ok ([], [])
  | c :: rest =>
      match place.step c rest with
      | .error fault => .error fault
      | .ok none => .ok ([], c :: rest)
      | .ok (some place) =>
          (splitField place rest).map fun (part, behind) => (c :: part, behind)

/-- The blanks that do not count as an expression. -/
def isFieldBlank (c : CodePoint) : Bool := isGap c || c = '\n'

/-- Reading the expression of a field, and making a fault of a string a reason to stop. -/
structure FieldReader where
  read : Text → Except Stop Node
  raise : StringFault → Stop

/-- Read the expression of a field in front of a text. -/
def FieldReader.readField (reader : FieldReader) (expression behind : Text) : Except Stop Unit :=
  if expression.all isFieldBlank then
    match behind with
    | [] => .ok ()
    | c :: _ => .error (reader.raise (if c = '\x7d' then .empty else .emptyBefore c))
  else
    (reader.read (CodePoint.ofChar '(' :: expression ++ [CodePoint.ofChar ')'])).map fun _ => ()

/-- The text behind an equals sign, which can stand behind the expression of a field. -/
def behindEquals (text : Text) : Text :=
  if text.head? = some (CodePoint.ofChar '=') then
    (text.drop 1).dropWhile fun c => isFieldBlank c || c.val = 11 || c.val = 13
  else text

/-- The text behind the conversion of a field: an exclamation mark and a letter. -/
def behindConversion : Text → Except StringFault Text
  | [] => .error .missingBrace
  | c :: rest =>
      if c ≠ '!' then .ok (c :: rest)
      else
        match rest with
        | [] => .error .missingBrace
        | letter :: rest =>
            if letter = 's' ∨ letter = 'r' ∨ letter = 'a' then .ok rest else .error .conversion

/-- Read a formatted string at a level of nesting, up to its end or to the brace that ends the field
that it belongs to.  Every step reads at least one code point. -/
def readFormatted (reader : FieldReader) (raw : Bool) :
    (steps : Nat) → (level : Nat) → Text → Except Stop Text
  | 0, _, text => .ok text
  | steps + 1, level, text => do
      let own {α : Type} (result : Except StringFault α) : Except Stop α :=
        result.mapError reader.raise
      let (part, text, more) ← own (plainPart raw level text)
      if let some fault := if raw then none else escapeFault? 0 (spelledOut part) then
        throw (reader.raise (.escape fault))
      if more then return ← readFormatted reader raw steps level text
      match text with
      | [] => if level = 0 then return [] else throw (reader.raise .missingBrace)
      | brace :: rest =>
          if brace = '\x7d' then return text
          if maxFieldLevel ≤ level then throw (reader.raise .deepNesting)
          let (expression, behind) ← own (splitField {} rest)
          if behind = [] then throw (reader.raise .missingBrace)
          reader.readField expression behind
          let behind ← own (behindConversion (behindEquals behind))
          let behind ←
            if behind.head? = some (CodePoint.ofChar ':') then
              if behind.tail = [] then throw (reader.raise .missingBrace)
              else readFormatted reader raw steps (level + 1) behind.tail
            else pure behind
          if behind.head? = some (CodePoint.ofChar '\x7d') then
            readFormatted reader raw steps level behind.tail
          else throw (reader.raise .missingBrace)

/-! ## Sequences of strings -/

/-- Read a string behind others; `before` tells what the others are. -/
def readLiteral (reader : FieldReader) (before : Option Constant) (literal : Literal) :
    Except Stop Constant := do
  let raise (fault : StringFault) : Except Stop Unit := throw (reader.raise fault)
  unless literal.isFormatted do
    if let some fault := literal.fault? then raise fault
  let kind := if literal.isBytes then Constant.bytes else .text
  if before.any fun other => decide (other ≠ kind) then raise .mixed
  if literal.isFormatted then
    let _ ← readFormatted reader literal.isRaw (literal.content.length + 1) 0 literal.content
  return kind

/-- The expression that a sequence of strings denotes. -/
def readStrings (reader : FieldReader) (tokens : List Text) : Except Stop Node := do
  let literals := tokens.map Literal.ofToken
  let kind ← literals.foldlM (fun before literal => do
    return some (← readLiteral reader before literal)) none
  if literals.any Literal.isFormatted then return .form .formatted
  return .constant (kind.getD .text)

end Findings.Expression
