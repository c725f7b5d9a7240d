import Findings.Json.Reader

/-!
Contract: the grammar of JSON text.

Owns:
- what stands at the front of a text, as relations between the text, what it denotes and the text
  behind: blanks, words, numbers, strings, and from these the values (`Spells`);
- `Denotes`, that a text is one value with blanks around it;
- `HasLongInteger`, that at a place where a text calls for a value an integer stands that is too
  long to be read.

The rules are those of RFC 8259, with `NaN`, `Infinity` and `-Infinity` besides.  Every escape by
number is a code point, also that of a surrogate; only the escapes of two halves in a row are one.
An object keeps all its members in the grammar (`Phrase.members`), and the last one under each name
as a value.

Does not own: how a text is read, and that what is read is what the grammar says
(`Findings.Proofs.Json.Lexemes`, `Findings.Proofs.Json.Language`).
-/

set_option autoImplicit false

namespace Findings.Json

/-! ## Blanks and words -/

/-- Space, tabulator, line feed and carriage return. -/
def blankCharacters : List Char := [' ', '\t', '\n', '\r']

/-- A text begins with blanks, maybe none, behind which the rest stands. -/
def Blanks (text rest : Text) : Prop :=
  ∃ blanks : List Char, (∀ c ∈ blanks, c ∈ blankCharacters) ∧
    text = blanks.map CodePoint.ofChar ++ rest

/-- The words, with what they denote. -/
inductive Word : Text → Json → Prop where
  | null : Word "null" .null
  | yes : Word "true" (.bool true)
  | no : Word "false" (.bool false)
  | notANumber : Word "NaN" (.real .notANumber)
  | infinity : Word "Infinity" (.real (.infinite false))
  | negativeInfinity : Word "-Infinity" (.real (.infinite true))

/-! ## Numbers -/

/-- One digit or more, and nothing else. -/
def AreDigits (digits : Text) : Prop := digits ≠ [] ∧ ∀ c ∈ digits, c.isDigit = true

/-- The whole part of a number: digits, of which the first is zero only if it is the last. -/
def IsWhole (digits : Text) : Prop :=
  AreDigits digits ∧ (digits.head? = some (CodePoint.ofChar '0') → digits.length = 1)

/-- The minus sign of a negative number. -/
def sign (negative : Bool) : Text := if negative then "-" else []

/-- The number of a size. -/
def signed (negative : Bool) (size : Nat) : Int := if negative then -size else size

/-- An exponent and its value. -/
inductive Exponent : Text → Int → Prop where
  | bare {letter : CodePoint} {digits : Text} (isLetter : letter = 'e' ∨ letter = 'E')
      (areDigits : AreDigits digits) : Exponent (letter :: digits) (Text.natValue digits)
  | plus {letter : CodePoint} {digits : Text} (isLetter : letter = 'e' ∨ letter = 'E')
      (areDigits : AreDigits digits) :
      Exponent (letter :: CodePoint.ofChar '+' :: digits) (Text.natValue digits)
  | minus {letter : CodePoint} {digits : Text} (isLetter : letter = 'e' ∨ letter = 'E')
      (areDigits : AreDigits digits) :
      Exponent (letter :: CodePoint.ofChar '-' :: digits) (-Text.natValue digits)

/-- A number and its value.  With a fraction or an exponent it is a floating point number. -/
inductive Number : Text → Json → Prop where
  | integer {whole : Text} (negative : Bool) (isWhole : IsWhole whole) :
      Number (sign negative ++ whole) (.int (signed negative (Text.natValue whole)))
  | fraction {whole fraction : Text} (negative : Bool) (isWhole : IsWhole whole)
      (areDigits : AreDigits fraction) :
      Number (sign negative ++ (whole ++ CodePoint.ofChar '.' :: fraction))
        (.real (Binary64.ofDecimal negative (Text.natValue (whole ++ fraction))
          (0 - fraction.length)))
  | exponent {whole spelling : Text} {exponent : Int} (negative : Bool) (isWhole : IsWhole whole)
      (isExponent : Exponent spelling exponent) :
      Number (sign negative ++ (whole ++ spelling))
        (.real (Binary64.ofDecimal negative (Text.natValue whole) exponent))
  | both {whole fraction spelling : Text} {exponent : Int} (negative : Bool)
      (isWhole : IsWhole whole) (areDigits : AreDigits fraction)
      (isExponent : Exponent spelling exponent) :
      Number (sign negative ++ (whole ++ CodePoint.ofChar '.' :: (fraction ++ spelling)))
        (.real (Binary64.ofDecimal negative (Text.natValue (whole ++ fraction))
          (exponent - fraction.length)))

/-- A digit, a fraction or an exponent stands here, so that an integer in front does not end. -/
def ContinuesInteger (rest : Text) : Prop :=
  (∃ c ∈ rest.head?, c.isDigit = true) ∨
    (∃ digits more, AreDigits digits ∧ rest = CodePoint.ofChar '.' :: (digits ++ more)) ∨
    ∃ spelling exponent more, Exponent spelling exponent ∧ rest = spelling ++ more

/-! ## Strings -/

/-- The escapes of one letter, with what they denote. -/
def escapes : List (Char × Char) :=
  [('"', '"'), ('\\', '\\'), ('/', '/'), ('b', '\x08'), ('f', '\x0c'), ('n', '\n'), ('r', '\r'),
    ('t', '\t')]

/-- Four hexadecimal digits, in either case, and the code point that they name. -/
inductive HexDigits : Text → CodePoint → Prop where
  | four {a b c d named : CodePoint} {w x y z : Nat} (first : a.hexValue? = some w)
      (second : b.hexValue? = some x) (third : c.hexValue? = some y) (fourth : d.hexValue? = some z)
      (names : named.val = ((w * 16 + x) * 16 + y) * 16 + z) : HexDigits [a, b, c, d] named

/-- Here an escape by number begins. -/
def numberEscape (digits rest : Text) : Text :=
  CodePoint.ofChar '\\' :: CodePoint.ofChar 'u' :: (digits ++ rest)

/-- The escape of the second half of a surrogate pair stands here, and the text goes on behind
it. -/
def BeginsLowEscape (text : Text) : Prop :=
  ∃ digits low next rest, HexDigits digits low ∧ low.isLowSurrogate = true ∧
    text = numberEscape digits (next :: rest)

/-- The inside of a string up to the closing quote: what it denotes, its text, and the text behind
the quote.  Control characters have to be escaped. -/
inductive Inside : Text → Text → Text → Prop where
  | closing {rest : Text} : Inside [] (CodePoint.ofChar '"' :: rest) rest
  | itself {c : CodePoint} {value text rest : Text} (noControl : 0x20 ≤ c.val)
      (noQuote : c ≠ CodePoint.ofChar '"') (noBackslash : c ≠ CodePoint.ofChar '\\')
      (behind : Inside value text rest) : Inside (c :: value) (c :: text) rest
  | letter {letter denoted : Char} {value text rest : Text} (listed : (letter, denoted) ∈ escapes)
      (behind : Inside value text rest) :
      Inside (CodePoint.ofChar denoted :: value)
        (CodePoint.ofChar '\\' :: CodePoint.ofChar letter :: text) rest
  | number {digits value text rest : Text} {named : CodePoint} (isNamed : HexDigits digits named)
      (alone : named.isHighSurrogate = true → ¬ BeginsLowEscape text)
      (behind : Inside value text rest) : Inside (named :: value) (numberEscape digits text) rest
  | pair {digits others value text rest : Text} {high low : CodePoint}
      (isHigh : high.isHighSurrogate = true) (isLow : low.isLowSurrogate = true)
      (highNamed : HexDigits digits high) (lowNamed : HexDigits others low)
      (behind : Inside value text rest) :
      Inside (CodePoint.joinSurrogates high low :: value)
        (numberEscape digits (numberEscape others text)) rest

/-- The name of a member with the colon behind it. -/
def Label (name text rest : Text) : Prop :=
  ∃ inside stop, Blanks text (CodePoint.ofChar '"' :: inside) ∧ Inside name inside stop ∧
    Blanks stop (CodePoint.ofChar ':' :: rest)

/-! ## Values -/

/-- What the grammar derives. -/
inductive Phrase where
  | value (value : Json)
  /-- A value with blanks around it. -/
  | element (value : Json)
  /-- Elements with commas in between, at least one. -/
  | elements (items : List Json)
  /-- Members with commas in between, at least one.  A name can come again. -/
  | members (pairs : List (Text × Json))

/-- A text begins with a phrase, behind which the rest stands. -/
inductive Spells : Phrase → Text → Text → Prop where
  | word {value : Json} {spelling rest : Text} (isWord : Word spelling value) :
      Spells (.value value) (spelling ++ rest) rest
  | number {value : Json} {spelling rest : Text} (isNumber : Number spelling value) :
      Spells (.value value) (spelling ++ rest) rest
  | text {value inside rest : Text} (isInside : Inside value inside rest) :
      Spells (.value (.text value)) (CodePoint.ofChar '"' :: inside) rest
  | emptyArray {text rest : Text} (blanks : Blanks text (CodePoint.ofChar ']' :: rest)) :
      Spells (.value (.array [])) (CodePoint.ofChar '[' :: text) rest
  | array {items : List Json} {text rest : Text}
      (elements : Spells (.elements items) text (CodePoint.ofChar ']' :: rest)) :
      Spells (.value (.array items)) (CodePoint.ofChar '[' :: text) rest
  | emptyObject {text rest : Text} (blanks : Blanks text (CodePoint.ofChar '\x7d' :: rest)) :
      Spells (.value (.object [])) (CodePoint.ofChar '\x7b' :: text) rest
  | object {pairs : List (Text × Json)} {text rest : Text}
      (members : Spells (.members pairs) text (CodePoint.ofChar '\x7d' :: rest)) :
      Spells (.value (.object (Entries.ofPairs pairs))) (CodePoint.ofChar '\x7b' :: text) rest
  | element {value : Json} {text start stop rest : Text} (before : Blanks text start)
      (isValue : Spells (.value value) start stop) (behind : Blanks stop rest) :
      Spells (.element value) text rest
  | firstElement {item : Json} {text rest : Text} (element : Spells (.element item) text rest) :
      Spells (.elements [item]) text rest
  | nextElement {items : List Json} {item : Json} {text start rest : Text}
      (front : Spells (.elements items) text (CodePoint.ofChar ',' :: start))
      (element : Spells (.element item) start rest) : Spells (.elements (items ++ [item])) text rest
  | firstMember {name : Text} {value : Json} {text start rest : Text}
      (label : Label name text start) (element : Spells (.element value) start rest) :
      Spells (.members [(name, value)]) text rest
  | nextMember {pairs : List (Text × Json)} {name : Text} {value : Json}
      {text middle start rest : Text}
      (front : Spells (.members pairs) text (CodePoint.ofChar ',' :: middle))
      (label : Label name middle start) (element : Spells (.element value) start rest) :
      Spells (.members (pairs ++ [(name, value)])) text rest

/-- A text is one value with blanks around it. -/
def Denotes (text : Text) (value : Json) : Prop := Spells (.element value) text []

/-! ## Integers of too many digits -/

/-- Between the opening of an array and the next item stand the items before, with a comma behind
each, if there are any. -/
def ItemsInFront (items : List Json) (text rest : Text) : Prop :=
  (items = [] ∧ rest = text) ∨ Spells (.elements items) text (CodePoint.ofChar ',' :: rest)

/-- Between the opening of an object and the next member stand the members before, with a comma
behind each, if there are any. -/
def MembersInFront (pairs : List (Text × Json)) (text rest : Text) : Prop :=
  (pairs = [] ∧ rest = text) ∨ Spells (.members pairs) text (CodePoint.ofChar ',' :: rest)

/-- From the beginning of a whole text up to a place at which it calls for a value, with the
containers that are open there. -/
inductive Opens (whole : Text) : List Frame → Text → Prop where
  | nothing : Opens whole [] whole
  | item {stack : List Frame} {place text rest : Text} {items : List Json}
      (outer : Opens whole stack place) (begins : Blanks place (CodePoint.ofChar '[' :: text))
      (front : ItemsInFront items text rest) : Opens whole (.array items.reverse :: stack) rest
  | member {stack : List Frame} {place text middle rest name : Text} {pairs : List (Text × Json)}
      (outer : Opens whole stack place) (begins : Blanks place (CodePoint.ofChar '\x7b' :: text))
      (front : MembersInFront pairs text middle) (label : Label name middle rest) :
      Opens whole (.object (Entries.ofPairs pairs) name :: stack) rest

/-- Where a text calls for a value stands an integer of more digits than are read. -/
def HasLongInteger (text : Text) : Prop :=
  ∃ stack place negative whole rest, Opens text stack place ∧
    Blanks place (sign negative ++ (whole ++ rest)) ∧ IsWhole whole ∧
    Numeral.maxDigits < whole.length ∧ ¬ ContinuesInteger rest

/-! ## The rest of a text is its end -/

section Suffixes

variable {text rest : Text}

theorem Blanks.suffix (blanks : Blanks text rest) : rest <:+ text := by
  obtain ⟨front, -, rfl⟩ := blanks
  exact List.suffix_append _ _

theorem suffix_of_cons {c : CodePoint} (suffix : c :: rest <:+ text) : rest <:+ text :=
  (List.suffix_cons c rest).trans suffix

theorem Inside.suffix {value : Text} (isInside : Inside value text rest) : rest <:+ text := by
  have behindEscape : ∀ digits more : Text, more <:+ numberEscape digits more := fun digits more =>
    (List.suffix_append digits more).trans (suffix_of_cons (List.suffix_cons _ _))
  induction isInside with
  | closing => exact List.suffix_cons _ _
  | itself _ _ _ _ inductionHypothesis => exact inductionHypothesis.trans (List.suffix_cons _ _)
  | letter _ _ inductionHypothesis =>
      exact inductionHypothesis.trans (suffix_of_cons (List.suffix_cons _ _))
  | number _ _ _ inductionHypothesis => exact inductionHypothesis.trans (behindEscape _ _)
  | pair _ _ _ _ _ inductionHypothesis =>
      exact inductionHypothesis.trans ((behindEscape _ _).trans (behindEscape _ _))

theorem Label.suffix {name : Text} (label : Label name text rest) : rest <:+ text := by
  obtain ⟨inside, stop, quote, isInside, colon⟩ := label
  exact (suffix_of_cons colon.suffix).trans (isInside.suffix.trans (suffix_of_cons quote.suffix))

theorem Spells.suffix {phrase : Phrase} (spells : Spells phrase text rest) : rest <:+ text := by
  induction spells with
  | word => exact List.suffix_append _ _
  | number => exact List.suffix_append _ _
  | text isInside => exact isInside.suffix.trans (List.suffix_cons _ _)
  | emptyArray blanks => exact (suffix_of_cons blanks.suffix).trans (List.suffix_cons _ _)
  | array _ inductionHypothesis =>
      exact (suffix_of_cons inductionHypothesis).trans (List.suffix_cons _ _)
  | emptyObject blanks => exact (suffix_of_cons blanks.suffix).trans (List.suffix_cons _ _)
  | object _ inductionHypothesis =>
      exact (suffix_of_cons inductionHypothesis).trans (List.suffix_cons _ _)
  | element before _ behind inductionHypothesis =>
      exact behind.suffix.trans (inductionHypothesis.trans before.suffix)
  | firstElement _ inductionHypothesis => exact inductionHypothesis
  | nextElement _ _ frontHypothesis elementHypothesis =>
      exact elementHypothesis.trans (suffix_of_cons frontHypothesis)
  | firstMember label _ inductionHypothesis => exact inductionHypothesis.trans label.suffix
  | nextMember _ label _ frontHypothesis elementHypothesis =>
      exact elementHypothesis.trans (label.suffix.trans (suffix_of_cons frontHypothesis))

theorem Opens.suffix {stack : List Frame} {place : Text} (opens : Opens text stack place) :
    place <:+ text := by
  induction opens with
  | nothing => exact List.suffix_refl _
  | item _ begins front inductionHypothesis =>
      have opened := (suffix_of_cons begins.suffix).trans inductionHypothesis
      rcases front with ⟨-, rfl⟩ | front
      · exact opened
      · exact (suffix_of_cons front.suffix).trans opened
  | member _ begins front label inductionHypothesis =>
      have opened := (suffix_of_cons begins.suffix).trans inductionHypothesis
      rcases front with ⟨-, rfl⟩ | front
      · exact label.suffix.trans opened
      · exact label.suffix.trans ((suffix_of_cons front.suffix).trans opened)

/-- A text with an integer that is too long is itself as long. -/
theorem HasLongInteger.length (long : HasLongInteger text) : Numeral.maxDigits < text.length := by
  obtain ⟨stack, place, negative, whole, rest, opens, blanks, -, isLong, -⟩ := long
  have placed := (blanks.suffix.trans opens.suffix).length_le
  rw [List.length_append, List.length_append] at placed
  omega

end Suffixes

end Findings.Json
