import Findings.Json.Basic
import Findings.Number.Numeral
import Findings.Text.Quoted

/-!
Contract: the tokens of JSON text.

Owns: reading one token from the front of a text, with every way in which a string or number token
can be faulty.  A token keeps the text from its first character on, so that a fault can be placed.

The lexical rules are those of RFC 8259, with `NaN`, `Infinity` and `-Infinity` besides.  A `\u`
escape may name a surrogate; two escapes that name the halves of a pair directly one after the other
denote the joined code point.

Does not own: which token may come where (`Findings.Json.Reader`).
-/

set_option autoImplicit false

namespace Findings.Json

/-- The blanks between tokens. -/
def isBlank (c : CodePoint) : Bool :=
  c.val = 0x20 || c.val = 0x09 || c.val = 0x0A || c.val = 0x0D

/-- Why a string token is faulty. -/
inductive StringFault where
  | unterminated
  | controlCharacter
  | unknownEscape
  | malformedUnicodeEscape
deriving DecidableEq, Repr

inductive Token where
  | beginArray
  | endArray
  | beginObject
  | endObject
  | nameSeparator
  | valueSeparator
  | text (value : Text)
  | literal (value : Json)
  /-- An integer of more digits than are read as a number. -/
  | excessiveInteger (digits : Nat)
  /-- A string token with a fault, and the text from the faulty character on. -/
  | faultyString (fault : StringFault) (place : Text)
  /-- A character that begins no token. -/
  | unknown

/-! ## Strings -/

/-- What an escape of one letter denotes. -/
def simpleEscape? (c : CodePoint) : Option CodePoint :=
  if c = '"' then some '"'
  else if c = '\\' then some '\\'
  else if c = '/' then some '/'
  else if c = 'b' then some '\x08'
  else if c = 'f' then some '\x0c'
  else if c = 'n' then some '\n'
  else if c = 'r' then some '\r'
  else if c = 't' then some '\t'
  else none

/-- The value of exactly four hexadecimal digits at the front of a text, and the rest.  The closing
quote is still to come, so a text that ends with the digits does not do. -/
def fourHexDigits? : Text → Option (CodePoint × Text)
  | a :: b :: c :: d :: e :: rest => do
      let high ← a.hexValue?
      let second ← b.hexValue?
      let third ← c.hexValue?
      let low ← d.hexValue?
      return (CodePoint.ofNat (((high * 16 + second) * 16 + third) * 16 + low), e :: rest)
  | _ => none

/-- The escape of a low surrogate at the front of a text, and the rest. -/
def lowSurrogateEscape? : Text → Option (CodePoint × Text)
  | backslash :: u :: rest =>
      if backslash = '\\' ∧ u = 'u' then
        match fourHexDigits? rest with
        | some (low, rest) => if low.isLowSurrogate then some (low, rest) else none
        | none => none
      else none
  | _ => none

/-- Read what follows the letter `u` of an escape: a code point, joined with a second escape when
the two are a surrogate pair. -/
def unicodeEscape? (text : Text) : Option (CodePoint × Text) :=
  match fourHexDigits? text with
  | none => none
  | some (first, rest) =>
      if first.isHighSurrogate then
        match lowSurrogateEscape? rest with
        | some (low, rest) => some (CodePoint.joinSurrogates first low, rest)
        | none => some (first, rest)
      else some (first, rest)

theorem fourHexDigits?_length {text rest : Text} {c : CodePoint}
    (read : fourHexDigits? text = some (c, rest)) : rest.length < text.length := by
  unfold fourHexDigits? at read
  split at read
  · simp only [Option.pure_def, Option.bind_eq_bind, Option.bind_eq_some_iff, Option.some.injEq,
      Prod.mk.injEq] at read
    obtain ⟨_, _, _, _, _, _, _, _, _, equal⟩ := read
    rw [← equal]
    simp only [List.length_cons]
    omega
  · cases read

theorem lowSurrogateEscape?_length {text rest : Text} {c : CodePoint}
    (read : lowSurrogateEscape? text = some (c, rest)) : rest.length < text.length := by
  unfold lowSurrogateEscape? at read
  split at read
  · split at read
    · split at read
      · split at read
        · rename_i digits _
          simp only [Option.some.injEq, Prod.mk.injEq] at read
          have shorter := fourHexDigits?_length digits
          rw [read.2] at shorter
          simp only [List.length_cons]
          omega
        · cases read
      · cases read
    · cases read
  · cases read

theorem unicodeEscape?_length {text rest : Text} {c : CodePoint}
    (read : unicodeEscape? text = some (c, rest)) : rest.length < text.length := by
  unfold unicodeEscape? at read
  split at read
  · cases read
  · rename_i first middle digits
    have shorter := fourHexDigits?_length digits
    split at read
    · split at read
      · rename_i low after escape
        have shorterStill := lowSurrogateEscape?_length escape
        simp only [Option.some.injEq, Prod.mk.injEq] at read
        rw [← read.2]
        omega
      · simp only [Option.some.injEq, Prod.mk.injEq] at read
        rw [← read.2]
        exact shorter
    · simp only [Option.some.injEq, Prod.mk.injEq] at read
      rw [← read.2]
      exact shorter

/-- Read the inside of a string up to its closing quote.  `opening` is the text from the opening
quote on, `before` what is read so far, in reverse. -/
def readString (opening before : Text) : (text : Text) → Token × Text
  | [] => (.faultyString .unterminated opening, [])
  | c :: rest =>
      if c = '"' then (.text before.reverse, rest)
      else if c = '\\' then
        match rest with
        | [] => (.faultyString .unterminated opening, [])
        | letter :: after =>
            if letter = 'u' then
              match _escape : unicodeEscape? after with
              | some (point, after) => readString opening (point :: before) after
              | none => (.faultyString .malformedUnicodeEscape (letter :: after), [])
            else
              match simpleEscape? letter with
              | some point => readString opening (point :: before) after
              | none => (.faultyString .unknownEscape (c :: letter :: after), [])
      else if c.val < 0x20 then (.faultyString .controlCharacter (c :: rest), [])
      else readString opening (c :: before) rest
termination_by text => text.length
decreasing_by
  · have := unicodeEscape?_length _escape
    simp only [List.length_cons]
    omega
  · simp only [List.length_cons]
    omega
  · simp only [List.length_cons]
    omega

/-! ## Numbers -/

/-- An optional minus sign. -/
def splitSign : Text → Bool × Text
  | [] => (false, [])
  | c :: rest => if c = '-' then (true, rest) else (false, c :: rest)

/-- The whole part of a number: a single zero, or digits that do not begin with zero. -/
def wholePart? : Text → Option (Text × Text)
  | [] => none
  | c :: rest =>
      if c = '0' then some ([c], rest)
      else if c.isDigit then
        some (c :: rest.takeWhile CodePoint.isDigit, rest.dropWhile CodePoint.isDigit)
      else none

/-- The digits after a decimal point; a point without digits belongs to no number. -/
def fractionPart? : Text → Option (Text × Text)
  | point :: digit :: rest =>
      if point = '.' ∧ digit.isDigit then
        some (digit :: rest.takeWhile CodePoint.isDigit, rest.dropWhile CodePoint.isDigit)
      else none
  | _ => none

/-- The sign and the digits of an exponent at the front of a text. -/
def exponentDigits? (negative : Bool) : Text → Option (Int × Text)
  | [] => none
  | digit :: rest =>
      if digit.isDigit then
        let size : Int := Text.natValue (digit :: rest.takeWhile CodePoint.isDigit)
        some (if negative then -size else size, rest.dropWhile CodePoint.isDigit)
      else none

/-- The exponent of a number; a letter `e` without digits belongs to no number. -/
def exponentPart? : Text → Option (Int × Text)
  | [] => none
  | letter :: rest =>
      if letter = 'e' ∨ letter = 'E' then
        match rest with
        | [] => none
        | sign :: digits =>
            if sign = '-' then exponentDigits? true digits
            else if sign = '+' then exponentDigits? false digits
            else exponentDigits? false (sign :: digits)
      else none

/-- The token of a number without fraction and exponent. -/
def integerToken (negative : Bool) (whole : Text) : Token :=
  if Numeral.maxDigits < whole.length then .excessiveInteger whole.length
  else
    let size : Int := Text.natValue whole
    .literal (.int (if negative then -size else size))

/-- Read a number from the front of a text. -/
def readNumber? (text : Text) : Option (Token × Text) :=
  let (negative, unsigned) := splitSign text
  match wholePart? unsigned with
  | none => none
  | some (whole, rest) =>
      match fractionPart? rest with
      | some (fraction, rest) =>
          let (exponent, rest) := (exponentPart? rest).getD (0, rest)
          let value := Binary64.ofDecimal negative (Text.natValue (whole ++ fraction))
            (exponent - fraction.length)
          some (.literal (.real value), rest)
      | none =>
          match exponentPart? rest with
          | some (exponent, rest) =>
              some (.literal (.real (Binary64.ofDecimal negative (Text.natValue whole) exponent)),
                rest)
          | none => some (integerToken negative whole, rest)

/-! ## Tokens -/

/-- The words that denote a value. -/
def words : List (Text × Json) :=
  [("null", .null), ("true", .bool true), ("false", .bool false), ("NaN", .real .notANumber),
    ("Infinity", .real (.infinite false)), ("-Infinity", .real (.infinite true))]

/-- Read a word from the front of a text. -/
def readWord? (text : Text) : Option (Token × Text) :=
  words.findSome? fun word => (Text.after? word.1 text).map fun rest => (.literal word.2, rest)

/-- The token that a single character is. -/
def punctuation? (c : CodePoint) : Option Token :=
  if c = '[' then some .beginArray
  else if c = ']' then some .endArray
  else if c = '\x7b' then some .beginObject
  else if c = '\x7d' then some .endObject
  else if c = ':' then some .nameSeparator
  else if c = ',' then some .valueSeparator
  else none

/-- Read the token that begins with `c`, and the text after it. -/
def readToken (c : CodePoint) (rest : Text) : Token × Text :=
  match punctuation? c with
  | some token => (token, rest)
  | none =>
      if c = '"' then readString (c :: rest) [] rest
      else
        match readWord? (c :: rest) with
        | some read => read
        | none => (readNumber? (c :: rest)).getD (.unknown, rest)

end Findings.Json
