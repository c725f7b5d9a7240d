import Findings.Json.Token
import Findings.Text.Lines

/-!
Contract: reading JSON text.

Owns:
- a machine that consumes one token at a time and keeps the open containers on a stack;
- `Json.read`, and the failures with their wording and place.

A fault of the text is reported at the first token, or the first character of a string, that no JSON
text can have there.
-/

set_option autoImplicit false

namespace Findings.Json

/-- Why a text is not JSON. -/
inductive Fault where
  | byteOrderMark
  | expectingValue
  | expectingName
  | expectingNameSeparator
  | expectingValueSeparator
  | extraData
  | string (fault : StringFault)
deriving DecidableEq, Repr

def StringFault.message : StringFault → Text
  | .unterminated => "Unterminated string starting at"
  | .controlCharacter => "Invalid control character at"
  | .unknownEscape => "Invalid \\escape"
  | .malformedUnicodeEscape => "Invalid \\uXXXX escape"

def Fault.message : Fault → Text
  | .byteOrderMark => "Unexpected UTF-8 BOM (decode using utf-8-sig)"
  | .expectingValue => "Expecting value"
  | .expectingName => "Expecting property name enclosed in double quotes"
  | .expectingNameSeparator => "Expecting ':' delimiter"
  | .expectingValueSeparator => "Expecting ',' delimiter"
  | .extraData => "Extra data"
  | .string fault => fault.message

/-- Why a text cannot be read: it is not JSON, or it holds an integer of too many digits. -/
inductive ReadError where
  | malformed (fault : Fault) (place : Text.Place)
  | excessiveInteger (digits : Nat)
deriving DecidableEq, Repr

def ReadError.message : ReadError → Text
  | .malformed fault place =>
      fault.message ++ Text.ofString ": line " ++ Text.ofNat place.line
        ++ Text.ofString " column " ++ Text.ofNat place.column
        ++ Text.ofString " (char " ++ Text.ofNat place.offset ++ Text.ofString ")"
  | .excessiveInteger digits => Numeral.excessMessage digits

/-! ## The machine -/

/-- A container that is still open: the items before in reverse, or the members before and the name
whose value is being read. -/
inductive Frame where
  | array (before : List Json)
  | object (before : Entries Json) (name : Text)

/-- What the text so far calls for. -/
inductive State where
  | value (stack : List Frame)
  | arrayStart (stack : List Frame)
  | objectStart (stack : List Frame)
  | name (before : Entries Json) (stack : List Frame)
  | nameSeparator (before : Entries Json) (name : Text) (stack : List Frame)
  /-- A value is complete; the innermost open container goes on or closes. -/
  | complete (value : Json) (stack : List Frame)

/-- A stop of the machine: a fault and the text from the faulty place on. -/
inductive Stop where
  | fault (fault : Fault) (place : Text)
  | excessiveInteger (digits : Nat)

/-- The fault of a state at which no token fits. -/
def State.fault : State → Fault
  | .value _ | .arrayStart _ => .expectingValue
  | .objectStart _ | .name .. => .expectingName
  | .nameSeparator .. => .expectingNameSeparator
  | .complete _ [] => .extraData
  | .complete _ (_ :: _) => .expectingValueSeparator

/-- The token begins a value. -/
def beginValue (stack : List Frame) (token : Token) (place : Text) : Except Stop State :=
  match token with
  | .text value => .ok (.complete (.text value) stack)
  | .literal value => .ok (.complete value stack)
  | .beginArray => .ok (.arrayStart stack)
  | .beginObject => .ok (.objectStart stack)
  | .excessiveInteger digits => .error (.excessiveInteger digits)
  | .faultyString fault place => .error (.fault (.string fault) place)
  | _ => .error (.fault .expectingValue place)

/-- The token is the name of a member. -/
def beginMember (before : Entries Json) (stack : List Frame) (token : Token) (place : Text) :
    Except Stop State :=
  match token with
  | .text name => .ok (.nameSeparator before name stack)
  | .faultyString fault place => .error (.fault (.string fault) place)
  | _ => .error (.fault .expectingName place)

/-- Consume one token, which begins at `place`. -/
def State.step (state : State) (token : Token) (place : Text) : Except Stop State :=
  match state, token with
  | .value stack, token => beginValue stack token place
  | .arrayStart stack, .endArray => .ok (.complete (.array []) stack)
  | .arrayStart stack, token => beginValue (.array [] :: stack) token place
  | .objectStart stack, .endObject => .ok (.complete (.object []) stack)
  | .objectStart stack, token => beginMember [] stack token place
  | .name before stack, token => beginMember before stack token place
  | .nameSeparator before label stack, .nameSeparator =>
      .ok (.value (.object before label :: stack))
  | .complete item (.array before :: stack), .valueSeparator =>
      .ok (.value (.array (item :: before) :: stack))
  | .complete item (.array before :: stack), .endArray =>
      .ok (.complete (.array (item :: before).reverse) stack)
  | .complete item (.object before label :: stack), .valueSeparator =>
      .ok (.name (Entries.insert label item before) stack)
  | .complete item (.object before label :: stack), .endObject =>
      .ok (.complete (.object (Entries.insert label item before)) stack)
  | state, _ => .error (.fault state.fault place)

/-- The end of the text. -/
def State.finish : State → Except Stop Json
  | .complete whole [] => .ok whole
  | state => .error (.fault state.fault [])

/-! ## A token is never empty -/

theorem readString_length_le (opening : Text) (before text : Text) :
    (readString opening before text).2.length ≤ text.length := by
  fun_induction readString opening before text with
  | case1 => exact Nat.le_refl _
  | case2 => simp only [List.length_cons]; omega
  | case3 => simp
  | case4 before after _ point rest escape inductionHypothesis =>
      have := unicodeEscape?_length ‹_›
      simp only [List.length_cons]
      omega
  | case5 => simp
  | case6 before letter after _ _ _ _ inductionHypothesis =>
      simp only [List.length_cons]
      omega
  | case7 => simp
  | case8 => simp
  | case9 before c rest _ _ _ inductionHypothesis =>
      simp only [List.length_cons]
      omega

theorem readWord?_length_le {c : CodePoint} {text rest : Text} {token : Token}
    (read : readWord? (c :: text) = some (token, rest)) : rest.length ≤ text.length := by
  obtain ⟨word, member, found⟩ := List.exists_of_findSome?_eq_some read
  obtain ⟨after, matched, equal⟩ := Option.map_eq_some_iff.1 found
  have lengths := Text.after?_length matched
  have nonempty : 0 < word.1.length := by
    have all : ∀ word ∈ words, 0 < word.1.length := by decide
    exact all word member
  simp only [Prod.mk.injEq] at equal
  rw [← equal.2]
  simp only [List.length_cons] at lengths
  omega

theorem wholePart?_length {text whole rest : Text} (read : wholePart? text = some (whole, rest)) :
    rest.length < text.length := by
  unfold wholePart? at read
  split at read
  · cases read
  · split at read
    · cases read; simp
    · split at read
      · rename_i after _ _
        cases read
        have := Text.length_dropWhile_le CodePoint.isDigit after
        simp only [List.length_cons]
        omega
      · cases read

theorem fractionPart?_length {text fraction rest : Text}
    (read : fractionPart? text = some (fraction, rest)) : rest.length < text.length := by
  unfold fractionPart? at read
  split at read
  · split at read
    · rename_i after _
      cases read
      have := Text.length_dropWhile_le CodePoint.isDigit after
      simp only [List.length_cons]
      omega
    · cases read
  · cases read

theorem exponentDigits?_length {negative : Bool} {text rest : Text} {exponent : Int}
    (read : exponentDigits? negative text = some (exponent, rest)) :
    rest.length < text.length := by
  unfold exponentDigits? at read
  split at read
  · cases read
  · split at read
    · rename_i after _
      cases read
      have := Text.length_dropWhile_le CodePoint.isDigit after
      simp only [List.length_cons]
      omega
    · cases read

theorem exponentPart?_length {text rest : Text} {exponent : Int}
    (read : exponentPart? text = some (exponent, rest)) : rest.length < text.length := by
  unfold exponentPart? at read
  split at read
  · cases read
  · split at read
    · split at read
      · cases read
      · split at read
        · have := exponentDigits?_length read
          simp only [List.length_cons]
          omega
        · split at read
          · have := exponentDigits?_length read
            simp only [List.length_cons]
            omega
          · have := exponentDigits?_length read
            simp only [List.length_cons] at this ⊢
            omega
    · cases read

theorem splitSign_length_le (text : Text) : (splitSign text).2.length ≤ text.length := by
  unfold splitSign
  split
  · exact Nat.le_refl _
  · split
    · simp
    · exact Nat.le_refl _

theorem readNumber?_length {text rest : Text} {token : Token}
    (read : readNumber? text = some (token, rest)) : rest.length < text.length := by
  unfold readNumber? at read
  have unsigned := splitSign_length_le text
  simp only at read
  split at read
  · cases read
  · rename_i whole after wholeRead
    have wholeShorter := wholePart?_length wholeRead
    split at read
    · rename_i fraction afterFraction fractionRead
      have fractionShorter := fractionPart?_length fractionRead
      simp only [Option.some.injEq, Prod.mk.injEq] at read
      rw [← read.2]
      cases exponentRead : exponentPart? afterFraction with
      | none => simp only [Option.getD_none]; omega
      | some pair =>
          obtain ⟨exponent, afterExponent⟩ := pair
          have exponentShorter := exponentPart?_length exponentRead
          simp only [Option.getD_some]
          omega
    · split at read
      · rename_i exponent afterExponent exponentRead
        have exponentShorter := exponentPart?_length exponentRead
        simp only [Option.some.injEq, Prod.mk.injEq] at read
        rw [← read.2]
        omega
      · simp only [Option.some.injEq, Prod.mk.injEq] at read
        rw [← read.2]
        omega

theorem readToken_length_le (c : CodePoint) (rest : Text) :
    (readToken c rest).2.length ≤ rest.length := by
  unfold readToken
  split
  · exact Nat.le_refl _
  · split
    · exact readString_length_le _ _ _
    · split
      · rename_i word
        exact readWord?_length_le word
      · cases numberRead : readNumber? (c :: rest) with
        | none => exact Nat.le_refl _
        | some read =>
            obtain ⟨token, after⟩ := read
            have := readNumber?_length numberRead
            simp only [List.length_cons] at this
            simp only [Option.getD_some]
            omega

/-! ## Reading -/

/-- Run the machine on the rest of a text. -/
def run (state : State) (text : Text) : Except Stop Json :=
  match _blanks : text.dropWhile isBlank with
  | [] => state.finish
  | c :: rest =>
      match state.step (readToken c rest).1 (c :: rest) with
      | .error stop => .error stop
      | .ok next => run next (readToken c rest).2
termination_by text.length
decreasing_by
  have shorter := readToken_length_le c rest
  have blanks := Text.length_dropWhile_le isBlank text
  rw [_blanks] at blanks
  simp only [List.length_cons] at blanks
  omega

/-- The error of a stop within the whole text. -/
def Stop.toError (whole : Text) : Stop → ReadError
  | .fault cause rest => .malformed cause (Text.placeOf whole rest)
  | .excessiveInteger digits => .excessiveInteger digits

/-- The value that a text denotes. -/
def read (text : Text) : Except ReadError Json :=
  if text.head? = some CodePoint.byteOrderMark then
    .error (.malformed .byteOrderMark (Text.placeAfter []))
  else (run (.value []) text).mapError (Stop.toError text)

end Findings.Json
