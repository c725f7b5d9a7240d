import Findings.Text.Letters
import Findings.Text.Printable

/-!
Contract: the tokens of an expression.

Owns: reading an expression into tokens, each with its line and with the number of brackets that are
open behind it, and every way in which a text can fail to be a sequence of tokens.

The lexical rules are those of a language with names, numerals, strings in single, double or triple
quotes with prefixes, and signs of up to three characters.  Inside brackets line ends are blanks.

Does not own: which token may come where (`Findings.Expression.Grammar`), or what stands in a string
(`Findings.Expression.Strings`).
-/

set_option autoImplicit false

namespace Findings.Expression

/-! ## Faults -/

/-- The kinds of numerals. -/
inductive NumeralKind where
  | decimal
  | imaginary
  | hexadecimal
  | octal
  | binary
deriving DecidableEq, Repr

def NumeralKind.name : NumeralKind → Text
  | .decimal => "decimal"
  | .imaginary => "imaginary"
  | .hexadecimal => "hexadecimal"
  | .octal => "octal"
  | .binary => "binary"

/-- Why no token can be read. -/
inductive LexicalFault where
  | unterminatedString (line : Nat)
  | unterminatedLongString (line : Nat)
  | invalidNumeral (kind : NumeralKind)
  | invalidDigit (digit : CodePoint) (kind : NumeralKind)
  | leadingZeros
  | invalidCharacter (c : CodePoint)
  | unprintableCharacter (c : CodePoint)
  | unmatched (bracket : CodePoint)
  /-- A closing bracket that does not fit the opening one; of that, the line where it is another. -/
  | mismatched (closing opening : CodePoint) (line : Option Nat)
  | tooManyBrackets
deriving DecidableEq

/-- The number of a code point in at least four hexadecimal digits, in capitals. -/
def pointNumber (c : CodePoint) : Text :=
  (Text.hexadecimal (if c.val < 0x10000 then 4 else if c.val < 0x100000 then 5 else 6) c.val).map
    CodePoint.toUpper

/-- A code point between quotes. -/
def between (c : CodePoint) : Text :=
  [CodePoint.ofChar '\'', c, CodePoint.ofChar '\'']

def LexicalFault.message : LexicalFault → Text
  | .unterminatedString line =>
      Text.ofString "unterminated string literal (detected at line " ++ Text.ofNat line
        ++ Text.ofString ")"
  | .unterminatedLongString line =>
      Text.ofString "unterminated triple-quoted string literal (detected at line "
        ++ Text.ofNat line ++ Text.ofString ")"
  | .invalidNumeral kind => Text.ofString "invalid " ++ kind.name ++ Text.ofString " literal"
  | .invalidDigit digit kind =>
      Text.ofString "invalid digit " ++ between digit ++ Text.ofString " in " ++ kind.name
        ++ Text.ofString " literal"
  | .leadingZeros =>
      Text.ofString "leading zeros in decimal integer literals are not permitted; "
        ++ Text.ofString "use an 0o prefix for octal integers"
  | .invalidCharacter c =>
      Text.ofString "invalid character " ++ between c ++ Text.ofString " (U+" ++ pointNumber c
        ++ Text.ofString ")"
  | .unprintableCharacter c =>
      Text.ofString "invalid non-printable character U+" ++ pointNumber c
  | .unmatched bracket => Text.ofString "unmatched " ++ between bracket
  | .mismatched closing opening line =>
      Text.ofString "closing parenthesis " ++ between closing
        ++ Text.ofString " does not match opening parenthesis " ++ between opening
        ++ (line.map fun line => Text.ofString " on line " ++ Text.ofNat line).getD []
  | .tooManyBrackets => "too many nested parentheses"

/-! ## Tokens -/

inductive Token where
  | name (text : Text)
  /-- A name that has a meaning in the grammar. -/
  | word (text : Text)
  | number (text : Text)
  | string (text : Text)
  | sign (text : Text)
  | lineEnd
  /-- Blanks in front of a line. -/
  | indent
  | finish
deriving DecidableEq

/-- A token, the number of brackets that are open behind it, and its line. -/
structure Placed where
  token : Token
  level : Nat
  line : Nat

/-- How the tokens of a text end: with its end, at a fault, behind an open bracket or a backslash at
the end of the text, or at a backslash with something behind it. -/
inductive Ending where
  | complete
  | fault (fault : LexicalFault)
  | early
  | afterBackslash
deriving DecidableEq

/-- The tokens of a text, how they end, and the brackets that are open there with their lines. -/
structure Lexed where
  tokens : List Placed
  ending : Ending
  opened : List (CodePoint × Nat)

/-- The names that have a meaning in the grammar. -/
def reservedWords : List String :=
  ["False", "None", "True", "and", "as", "assert", "async", "await", "break", "class", "continue",
    "def", "del", "elif", "else", "except", "finally", "for", "from", "global", "if", "import",
    "in", "is", "lambda", "nonlocal", "not", "or", "pass", "raise", "return", "try", "while",
    "with", "yield"]

/-- The signs of more than one character, the longest first. -/
def longSigns : List String :=
  ["...", "**=", "//=", "<<=", ">>=", "!=", "%=", "&=", "**", "*=", "+=", "-=", "->", "/=", "//",
    ":=", "<<", "<=", "<>", "==", ">=", ">>", "@=", "^=", "|="]

/-! ## Names -/

/-- The code points of which a name is made at first sight. -/
def isNamePart (c : CodePoint) : Bool := c.isAlphanumeric || c = '_' || 0x80 ≤ c.val

/-- The code points with which a name begins at first sight. -/
def isNameHead (c : CodePoint) : Bool := isNamePart c && !c.isDigit

/-- The first code point of a name that cannot stand there. -/
def nameFault? : (name : Text) → Option LexicalFault
  | [] => none
  | first :: rest =>
      let wrong := if first.beginsName then rest.find? fun c => !c.continuesName else some first
      wrong.map fun c => if c.isPrintable then .invalidCharacter c else .unprintableCharacter c

/-- A name as a token. -/
def nameToken (name : Text) : Token :=
  if reservedWords.any fun word => Text.ofString word = name then .word name else .name name

/-- Read a name. -/
def readName (text : Text) : Except LexicalFault (Token × Text) :=
  let name := text.takeWhile isNamePart
  match nameFault? name with
  | some fault => .error fault
  | none => .ok (nameToken name, text.dropWhile isNamePart)

/-! ## Numerals -/

/-- Decimal digits, between which there can be single low lines, and the text behind them. -/
def decimalDigits : Text → Except LexicalFault (Text × Text)
  | [] => .ok ([], [])
  | c :: rest =>
      if c.isDigit then (decimalDigits rest).map fun (digits, rest) => (c :: digits, rest)
      else if c = '_' then
        if rest.head?.any CodePoint.isDigit then
          (decimalDigits rest).map fun (digits, rest) => (c :: digits, rest)
        else .error (.invalidNumeral .decimal)
      else .ok ([], c :: rest)

/-- Whether a code point is a digit of a kind of numerals. -/
def NumeralKind.hasDigit (kind : NumeralKind) (c : CodePoint) : Bool :=
  match kind with
  | .decimal | .imaginary => c.isDigit
  | .hexadecimal => c.hexValue?.isSome
  | .octal => c.within 0x30 0x37
  | .binary => c.within 0x30 0x31

/-- Where the reading of digits behind a prefix stands: at the front, behind a low line, or behind a
digit. -/
inductive DigitPlace where
  | front
  | behindLine
  | behindDigit
deriving DecidableEq

/-- The digits of a numeral behind its prefix, and the text behind them. -/
def prefixedDigits (kind : NumeralKind) : DigitPlace → Text → Except LexicalFault (Text × Text)
  | .behindDigit, [] => .ok ([], [])
  | _, [] => .error (.invalidNumeral kind)
  | place, c :: rest =>
      if kind.hasDigit c then
        (prefixedDigits kind .behindDigit rest).map fun (digits, rest) => (c :: digits, rest)
      else if c.isDigit then .error (.invalidDigit c kind)
      else if c = '_' ∧ place ≠ .behindLine then
        (prefixedDigits kind .behindLine rest).map fun (digits, rest) => (c :: digits, rest)
      else if place = .behindDigit then .ok ([], c :: rest)
      else .error (.invalidNumeral kind)

/-- The words that can follow a numeral without a blank between. -/
def followers : List String := ["and", "else", "for", "or"]

/-- Whether a word stands in front of a text. -/
def beginsWithWord (text : Text) (word : String) : Bool :=
  match Text.after? (Text.ofString word) text with
  | some rest => !rest.head?.any isNamePart
  | none => false

/-- Whether a text can follow a numeral. -/
def canFollowNumeral (text : Text) : Bool :=
  !text.head?.any isNamePart || followers.any (beginsWithWord text)
    || ["if", "in", "is"].any fun word => Text.startsWith text (Text.ofString word)

/-- End a numeral of some kind. -/
def endNumeral (kind : NumeralKind) (numeral rest : Text) : Except LexicalFault (Text × Text) :=
  if canFollowNumeral rest then .ok (numeral, rest) else .error (.invalidNumeral kind)

/-- End a numeral that can be imaginary. -/
def endImaginary (numeral : Text) : (rest : Text) → Except LexicalFault (Text × Text)
  | [] => .ok (numeral, [])
  | c :: rest =>
      if c = 'j' ∨ c = 'J' then endNumeral .imaginary (numeral ++ [c]) rest
      else endNumeral .decimal numeral (c :: rest)

/-- End a numeral that can have an exponent. -/
def endExponent (numeral : Text) : (rest : Text) → Except LexicalFault (Text × Text)
  | [] => .ok (numeral, [])
  | c :: rest =>
      if c = 'e' ∨ c = 'E' then
        let signed := rest.head?.any fun (sign : CodePoint) => sign = '+' || sign = '-'
        let sign := if signed then rest.take 1 else []
        let digits := if signed then rest.drop 1 else rest
        if digits.head?.any CodePoint.isDigit then
          match decimalDigits digits with
          | .error fault => .error fault
          | .ok (digits, rest) => endImaginary (numeral ++ c :: sign ++ digits) rest
        else if signed then .error (.invalidNumeral .decimal)
        else endNumeral .decimal numeral (c :: rest)
      else endImaginary numeral (c :: rest)

/-- End a numeral behind its point. -/
def endFraction (numeral rest : Text) : Except LexicalFault (Text × Text) :=
  if rest.head?.any CodePoint.isDigit then
    match decimalDigits rest with
    | .error fault => .error fault
    | .ok (digits, rest) => endExponent (numeral ++ digits) rest
  else endExponent numeral rest

/-- Whether digits denote zero. -/
def isZeroNumeral (digits : Text) : Bool := digits.all fun c => c = '0' || c = '_'

/-- Read a numeral that begins with a digit and has no prefix.  Unless it is zero, an integer begins
with another digit than zero. -/
def readDecimal (text : Text) : Except LexicalFault (Text × Text) :=
  match decimalDigits text with
  | .error fault => .error fault
  | .ok (digits, []) =>
      if text.head? = some (CodePoint.ofChar '0') ∧ !isZeroNumeral digits then .error .leadingZeros
      else .ok (digits, [])
  | .ok (digits, c :: rest) =>
      if c = '.' then endFraction (digits ++ [c]) rest
      else if c = 'e' ∨ c = 'E' ∨ c = 'j' ∨ c = 'J' then endExponent digits (c :: rest)
      else if text.head? = some (CodePoint.ofChar '0') ∧ !isZeroNumeral digits then
        .error .leadingZeros
      else endNumeral .decimal digits (c :: rest)

/-- The kind of numerals that a letter behind a zero announces. -/
def announced? (letter : CodePoint) : Option NumeralKind :=
  if letter = 'x' ∨ letter = 'X' then some .hexadecimal
  else if letter = 'o' ∨ letter = 'O' then some .octal
  else if letter = 'b' ∨ letter = 'B' then some .binary
  else none

/-- Read a numeral that begins with a digit. -/
def readNumeral : Text → Except LexicalFault (Text × Text)
  | zero :: letter :: rest =>
      match if zero = '0' then announced? letter else none with
      | some kind =>
          match prefixedDigits kind .front rest with
          | .error fault => .error fault
          | .ok (digits, rest) => endNumeral kind (zero :: letter :: digits) rest
      | none => readDecimal (zero :: letter :: rest)
  | text => readDecimal text

/-! ## Strings -/

/-- Whether a code point is a quote. -/
def isQuote (c : CodePoint) : Bool := c = '\'' || c = '"'

/-- The letters in front of a string: what it holds is bytes, raw or formatted. -/
def stringPrefixes : List String := ["", "b", "u", "r", "f", "br", "rb", "fr", "rf"]

/-- The letters in front of a string at the front of a text, and the text from the quote on. -/
def splitPrefix? (text : Text) : Option (Text × Text) :=
  let letters := text.takeWhile fun c => !isQuote c
  if stringPrefixes.any fun known => Text.ofString known = letters.map CodePoint.toLower then
    match text.drop letters.length with
    | [] => none
    | rest => some (letters, rest)
  else none

/-- The inside of a string in single marks with its closing quote, and the text behind it; none if
the line ends before. -/
def shortString? (quote : CodePoint) : Text → Option (Text × Text)
  | [] => none
  | [c] => if c = quote then some ([c], []) else none
  | c :: d :: rest =>
      if c = quote then some ([c], d :: rest)
      else if c = '\n' then none
      else if c = '\\' then
        (shortString? quote rest).map fun (inside, rest) => (c :: d :: inside, rest)
      else (shortString? quote (d :: rest)).map fun (inside, rest) => (c :: inside, rest)

/-- The inside of a string in triple marks with its closing quotes, and the text behind it. -/
def longString? (quote : CodePoint) : Text → Option (Text × Text)
  | c :: d :: e :: rest =>
      if c = quote ∧ d = quote ∧ e = quote then some ([c, d, e], rest)
      else if c = '\\' then
        (longString? quote (e :: rest)).map fun (inside, rest) => (c :: d :: inside, rest)
      else (longString? quote (d :: e :: rest)).map fun (inside, rest) => (c :: inside, rest)
  | _ => none

/-- The number of line ends in a text. -/
def lineEnds (text : Text) : Nat := text.count (CodePoint.ofChar '\n')

/-- How many line ends a short string passes before it breaks off, which are those behind a
backslash. -/
def passedLineEnds : Text → Nat
  | [] => 0
  | [_] => 0
  | c :: d :: rest =>
      if c = '\n' then 0
      else if c = '\\' then (if d = '\n' then 1 else 0) + passedLineEnds rest
      else passedLineEnds (d :: rest)

/-- Read a string in quotes that begins on a line, with the letters in front of it. -/
def readString (line : Nat) (letters : Text) (quote : CodePoint) (rest : Text) :
    Except LexicalFault (Text × Text) :=
  match Text.after? [quote, quote] rest with
  | some inside =>
      match longString? quote inside with
      | some (inside, rest) => .ok (letters ++ [quote, quote, quote] ++ inside, rest)
      | none => .error (.unterminatedLongString (line + lineEnds inside))
  | none =>
      match shortString? quote rest with
      | some (inside, rest) => .ok (letters ++ quote :: inside, rest)
      | none => .error (.unterminatedString (line + passedLineEnds rest))

/-! ## Signs -/

/-- The most brackets that can be open. -/
def maxLevel : Nat := 200

/-- The bracket that closes another one. -/
def closing? (c : CodePoint) : Option CodePoint :=
  if c = '(' then some ')' else if c = '[' then some ']'
  else if c = '\x7b' then some '\x7d' else none

/-- Whether a code point is a closing bracket. -/
def isClosing (c : CodePoint) : Bool := c = ')' || c = ']' || c = '\x7d'

/-- The open brackets behind a sign of one character. -/
def trackBracket (line : Nat) (opened : List (CodePoint × Nat)) (c : CodePoint) :
    Except LexicalFault (List (CodePoint × Nat)) :=
  if (closing? c).isSome then
    if maxLevel ≤ opened.length then .error .tooManyBrackets else .ok ((c, line) :: opened)
  else if isClosing c then
    match opened with
    | [] => .error (.unmatched c)
    | (opening, openingLine) :: others =>
        if closing? opening = some c then .ok others
        else
          .error (.mismatched c opening (if openingLine = line then none else some openingLine))
  else .ok opened

/-- The sign of several characters at the front of a text. -/
def longSign? (text : Text) : Option (Text × Text) :=
  longSigns.findSome? fun sign =>
    (Text.after? (Text.ofString sign) text).map fun rest => (Text.ofString sign, rest)

/-! ## Reading -/

/-- The blanks between tokens. -/
def isGap (c : CodePoint) : Bool := c = ' ' || c = '\t' || c.val = 12

/-- What is read so far: tokens in reverse, open brackets, and the line. -/
structure Lexing where
  tokens : List Placed := []
  opened : List (CodePoint × Nat) := []
  line : Nat := 1

namespace Lexing

/-- Put a token behind those that are read. -/
def push (state : Lexing) (token : Token) : Lexing :=
  { state with tokens := ⟨token, state.opened.length, state.line⟩ :: state.tokens }

/-- End the reading. -/
def finish (state : Lexing) (ending : Ending) : Lexed where
  tokens := state.tokens.reverse
  ending := ending
  opened := state.opened

/-- Pass over a number of line ends. -/
def passLines (state : Lexing) (count : Nat) : Lexing := { state with line := state.line + count }

/-- End the reading at the end of the text. -/
def close (state : Lexing) : Lexed :=
  if state.opened = [] then (state.push .finish).finish .complete else state.finish .early

/-- One step of reading: what is read, and the text behind it, or the end. -/
abbrev Step := Except Lexed (Lexing × Text)

/-- Read a token that is a name, a number or a string. -/
def take (state : Lexing) (read : Except LexicalFault (Token × Text)) : Step :=
  match read with
  | .error fault => .error (state.finish (.fault fault))
  | .ok (token, rest) => .ok (state.push token, rest)

/-- Read a sign. -/
def takeSign (state : Lexing) (c : CodePoint) (rest : Text) : Step :=
  match longSign? (c :: rest) with
  | some (sign, rest) => .ok (state.push (.sign sign), rest)
  | none =>
      match trackBracket state.line state.opened c with
      | .error fault => .error (state.finish (.fault fault))
      | .ok opened =>
          if c.isPrintable then .ok ({ state with opened := opened }.push (.sign [c]), rest)
          else .error (state.finish (.fault (.unprintableCharacter c)))

/-- Go on behind a line end.  Lines without tokens do not count, and neither do line ends in
brackets. -/
def takeLineEnd (state : Lexing) (rest : Text) : Lexing × Text :=
  let isFirst : Bool := match state.tokens with
    | [] => true
    | last :: _ => last.token = .lineEnd
  let ended := if state.opened = [] ∧ !isFirst then state.push .lineEnd else state
  let behind := rest.dropWhile isGap
  let empty := behind.head?.all fun (c : CodePoint) => c = '#' || c = '\n'
  let next := ended.passLines 1
  if state.opened = [] ∧ rest.head?.any isGap ∧ !empty then (next.push .indent, behind)
  else (next, behind)

/-- Read one token from a text that does not begin with a blank. -/
def step (state : Lexing) (c : CodePoint) (rest : Text) : Step :=
  if c = '#' then .ok (state, rest.dropWhile (· ≠ CodePoint.ofChar '\n'))
  else if c = '\n' then .ok (state.takeLineEnd rest)
  else if c = '\\' then
    match rest with
    | [] => .error (state.finish .afterBackslash)
    | d :: rest =>
        if d ≠ '\n' then .error (state.finish .afterBackslash)
        else if rest = [] then .error (state.finish .early)
        else .ok (state.passLines 1, rest)
  else if c.isDigit ∨ (c = '.' ∧ rest.head?.any CodePoint.isDigit) then
    let read := if c.isDigit then readNumeral (c :: rest) else endFraction [c] rest
    state.take (read.map fun (numeral, rest) => (.number numeral, rest))
  else
    match splitPrefix? (c :: rest) with
    | some (letters, quote :: inside) =>
        match readString state.line letters quote inside with
        | .error fault => .error (state.finish (.fault fault))
        | .ok (string, rest) =>
            .ok ((state.push (.string string)).passLines (lineEnds string), rest)
    | _ => if isNameHead c then state.take (readName (c :: rest)) else state.takeSign c rest

/-- Read tokens; every step reads at least one character. -/
def run : (steps : Nat) → Lexing → Text → Lexed
  | 0, state, _ => state.close
  | steps + 1, state, text =>
      match text.dropWhile isGap with
      | [] => state.close
      | c :: rest =>
          match state.step c rest with
          | .error lexed => lexed
          | .ok (state, rest) => run steps state rest

end Lexing

/-- The tokens of a text that begins on a line. -/
def tokensOf (text : Text) : Lexed := Lexing.run (text.length + 1) {} text

end Findings.Expression
