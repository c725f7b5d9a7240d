import Findings.Number.Numeral
import Findings.Toml.Basic

/-!
Contract: numbers, dates and times of TOML text.

Owns: for each kind a reader that takes the longest beginning of a text that belongs to the kind, or
refuses; a date that is well formed but not in the calendar is a fault.
-/

set_option autoImplicit false

namespace Findings.Toml

/-! ## Runs of digits -/

/-- The digits after the first one of a number.  An underscore may stand between two digits; it is
left out of the result. -/
def digitsAfter (isDigit : CodePoint → Bool) (before : Text) : Text → Text × Text
  | [] => (before.reverse, [])
  | [c] => if isDigit c then ((c :: before).reverse, []) else (before.reverse, [c])
  | c :: d :: rest =>
      if isDigit c then digitsAfter isDigit (c :: before) (d :: rest)
      else if c = '_' ∧ isDigit d then digitsAfter isDigit (d :: before) rest
      else (before.reverse, c :: d :: rest)

/-- A run of digits with single underscores between them. -/
def digits? (isDigit : CodePoint → Bool) : Text → Option (Text × Text)
  | [] => none
  | c :: rest => if isDigit c then some (digitsAfter isDigit [c] rest) else none

/-! ## Numbers -/

def isHexDigit (c : CodePoint) : Bool := c.hexValue?.isSome

def isOctalDigit (c : CodePoint) : Bool := c.within 0x30 0x37

def isBinaryDigit (c : CodePoint) : Bool := c.within 0x30 0x31

/-- The number that digits of a base denote. -/
def valueInBase (base : Nat) (digits : Text) : Nat :=
  digits.foldl (fun value c => value * base + c.hexValue?.getD 0) 0

/-- Digits of a base behind the letter that names it. -/
def basedDigits? (letter : CodePoint) (rest : Text) : Option (Nat × Text) :=
  if letter = 'x' then (digits? isHexDigit rest).map fun read => (valueInBase 16 read.1, read.2)
  else if letter = 'b' then
    (digits? isBinaryDigit rest).map fun read => (valueInBase 2 read.1, read.2)
  else if letter = 'o' then
    (digits? isOctalDigit rest).map fun read => (valueInBase 8 read.1, read.2)
  else none

/-- An integer in base sixteen, two or eight. -/
def basedInteger? : Text → Option (Value × Text)
  | zero :: letter :: rest =>
      if zero = '0' then
        (basedDigits? letter rest).map fun read => (.integer read.1, read.2)
      else none
  | _ => none

/-- An optional sign. -/
def splitSign : Text → Bool × Text
  | [] => (false, [])
  | c :: rest =>
      if c = '-' then (true, rest) else if c = '+' then (false, rest) else (false, c :: rest)

/-- The whole part of a decimal number: a single zero, or digits that do not begin with zero. -/
def wholePart? : Text → Option (Text × Text)
  | [] => none
  | c :: rest =>
      if c = '0' then some ([c], rest)
      else if c.isDigit then some (digitsAfter CodePoint.isDigit [c] rest)
      else none

/-- The digits behind a decimal point. -/
def fractionPart? : Text → Option (Text × Text)
  | [] => none
  | c :: rest => if c = '.' then digits? CodePoint.isDigit rest else none

/-- The exponent of a decimal number. -/
def exponentPart? : Text → Option (Int × Text)
  | [] => none
  | letter :: rest =>
      if letter = 'e' ∨ letter = 'E' then
        (digits? CodePoint.isDigit (splitSign rest).2).map fun read =>
          let size : Int := Text.natValue read.1
          (if (splitSign rest).1 then -size else size, read.2)
      else none

/-- A decimal number without fraction and exponent. -/
def decimalInteger (negative : Bool) (digits : Text) : Except Stop Value :=
  if Numeral.maxDigits < digits.length then .error (.excessiveInteger digits.length)
  else
    let size : Int := Text.natValue digits
    .ok (.integer (if negative then -size else size))

/-- A decimal number. -/
def decimalNumber? (text : Text) : Option (Except Stop Value × Text) :=
  let (negative, unsigned) := splitSign text
  match wholePart? unsigned with
  | none => none
  | some (whole, rest) =>
      let (fraction, afterFraction) := (fractionPart? rest).getD ([], rest)
      let (exponent, after) := (exponentPart? afterFraction).getD (0, afterFraction)
      if after.length = rest.length then some (decimalInteger negative whole, after)
      else
        some (.ok (.real (Binary64.ofDecimal negative (Text.natValue (whole ++ fraction))
          (exponent - fraction.length))), after)

/-- The words for numbers that have no digits. -/
def numberWords : List (Text × Value) :=
  [("inf", .real (.infinite false)), ("nan", .real .notANumber),
    ("-inf", .real (.infinite true)), ("+inf", .real (.infinite false)),
    ("-nan", .real .notANumber), ("+nan", .real .notANumber)]

/-- One of the words of a list. -/
def word? (words : List (Text × Value)) (text : Text) : Option (Value × Text) :=
  words.findSome? fun word => (Text.after? word.1 text).map fun rest => (word.2, rest)

/-! ## Dates and times -/

/-- A number of exactly `count` digits. -/
def fixedDigits? (count : Nat) (text : Text) : Option (Nat × Text) :=
  if (text.take count).length = count ∧ (text.take count).all CodePoint.isDigit then
    some (Text.natValue (text.take count), text.drop count)
  else none

/-- A number of two digits within bounds. -/
def boundedPair? (low high : Nat) (text : Text) : Option (Nat × Text) :=
  (fixedDigits? 2 text).filter fun read => decide (low ≤ read.1) && decide (read.1 ≤ high)

/-- One character. -/
def character? (c : CodePoint) : Text → Option Text
  | [] => none
  | d :: rest => if d = c then some rest else none

/-- Fractions of a second; a point without digits does not belong to the time. -/
def skipFraction : Text → Text
  | point :: digit :: rest =>
      if point = '.' ∧ digit.isDigit then rest.dropWhile CodePoint.isDigit
      else point :: digit :: rest
  | text => text

/-- The end of a time of day at the front of a text. -/
def time? (text : Text) : Option Text := do
  let (_, rest) ← boundedPair? 0 23 text
  let rest ← character? ':' rest
  let (_, rest) ← boundedPair? 0 59 rest
  let rest ← character? ':' rest
  let (_, rest) ← boundedPair? 0 59 rest
  return skipFraction rest

/-- The end of a numeric offset behind its sign. -/
def numericOffset? (text : Text) : Option Text := do
  let (_, rest) ← boundedPair? 0 23 text
  let rest ← character? ':' rest
  let (_, rest) ← boundedPair? 0 59 rest
  return rest

/-- The end of an offset from universal time, if there is one. -/
def skipOffset (text : Text) : Text :=
  match text with
  | [] => []
  | c :: rest =>
      if c = 'Z' ∨ c = 'z' then rest
      else if c = '+' ∨ c = '-' then (numericOffset? rest).getD text
      else text

/-- The end of a time behind a date, if there is one. -/
def skipTimeOfDate (text : Text) : Text :=
  match text with
  | [] => []
  | c :: rest =>
      if c = 'T' ∨ c = 't' ∨ c = ' ' then
        match time? rest with
        | some rest => skipOffset rest
        | none => text
      else text

/-- How many days a month has. -/
def daysInMonth (year month : Nat) : Nat :=
  if month = 2 then
    if year % 4 = 0 ∧ (year % 100 ≠ 0 ∨ year % 400 = 0) then 29 else 28
  else if month = 4 ∨ month = 6 ∨ month = 9 ∨ month = 11 then 30
  else 31

/-- Whether a date is in the calendar. -/
def isCalendarDate (year month day : Nat) : Bool :=
  decide (1 ≤ year) && decide (day ≤ daysInMonth year month)

/-- A date at the front of a text, and the text behind it. -/
def date? (text : Text) : Option ((Nat × Nat × Nat) × Text) := do
  let (year, rest) ← fixedDigits? 4 text
  let rest ← character? '-' rest
  let (month, rest) ← boundedPair? 1 12 rest
  let rest ← character? '-' rest
  let (day, rest) ← boundedPair? 1 31 rest
  return ((year, month, day), rest)

/-- What lies between a text and one of its endings. -/
def writtenBefore (text rest : Text) : Text := text.take (text.length - rest.length)

/-- A date with or without a time, or a time alone. -/
def moment? (text : Text) : Option (Except Stop Value × Text) :=
  match date? text with
  | some ((year, month, day), rest) =>
      if isCalendarDate year month day then
        some (.ok (.moment (writtenBefore text (skipTimeOfDate rest))), skipTimeOfDate rest)
      else some (.error (.fault .invalidDate text), text)
  | none => (time? text).map fun rest => (.ok (.moment (writtenBefore text rest)), rest)

/-! ## Any of them -/

/-- Keep the text behind a value that was read. -/
def withRest : Except Stop Value × Text → Read Value
  | (.ok value, rest) => .ok (value, rest)
  | (.error stop, _) => .error stop

/-- A scalar value that is not a string. -/
def readPlainScalar (text : Text) : Read Value :=
  match word? [("true", .bool true), ("false", .bool false)] text with
  | some read => .ok read
  | none =>
      match moment? text with
      | some read => withRest read
      | none =>
          match basedInteger? text with
          | some read => .ok read
          | none =>
              match decimalNumber? text with
              | some read => withRest read
              | none =>
                  match word? numberWords text with
                  | some read => .ok read
                  | none => .error (.fault .invalidValue text)

/-! ## Progress -/

theorem digitsAfter_length_le (isDigit : CodePoint → Bool) (before text : Text) :
    (digitsAfter isDigit before text).2.length ≤ text.length := by
  fun_induction digitsAfter isDigit before text <;> grind

theorem digits?_length {isDigit : CodePoint → Bool} {text digits rest : Text}
    (read : digits? isDigit text = some (digits, rest)) : rest.length < text.length := by
  unfold digits? at read
  grind [digitsAfter_length_le]

theorem basedDigits?_length {letter : CodePoint} {text rest : Text} {value : Nat}
    (read : basedDigits? letter text = some (value, rest)) : rest.length < text.length := by
  unfold basedDigits? at read
  grind [→ digits?_length, Option.map_eq_some_iff]

theorem basedInteger?_length {text rest : Text} {value : Value}
    (read : basedInteger? text = some (value, rest)) : rest.length < text.length := by
  unfold basedInteger? at read
  grind [→ basedDigits?_length, Option.map_eq_some_iff]

theorem splitSign_length_le (text : Text) : (splitSign text).2.length ≤ text.length := by
  unfold splitSign
  grind

theorem wholePart?_length {text whole rest : Text}
    (read : wholePart? text = some (whole, rest)) : rest.length < text.length := by
  unfold wholePart? at read
  grind [digitsAfter_length_le]

theorem fractionPart?_length {text fraction rest : Text}
    (read : fractionPart? text = some (fraction, rest)) : rest.length < text.length := by
  unfold fractionPart? at read
  grind [→ digits?_length, Option.map_eq_some_iff]

theorem exponentPart?_length {text rest : Text} {exponent : Int}
    (read : exponentPart? text = some (exponent, rest)) : rest.length < text.length := by
  unfold exponentPart? at read
  grind [→ digits?_length, splitSign_length_le, Option.map_eq_some_iff]

theorem decimalNumber?_length {text rest : Text} {value : Except Stop Value}
    (read : decimalNumber? text = some (value, rest)) : rest.length < text.length := by
  unfold decimalNumber? at read
  have unsigned := splitSign_length_le text
  simp only at read
  split at read
  · cases read
  · rename_i whole after wholeRead
    have wholeShorter := wholePart?_length wholeRead
    have fraction : ((fractionPart? after).getD ([], after)).2.length ≤ after.length := by
      cases read : fractionPart? after with
      | none => exact Nat.le_refl _
      | some part => exact Nat.le_of_lt (fractionPart?_length read)
    have exponent : ∀ middle : Text,
        ((exponentPart? middle).getD (0, middle)).2.length ≤ middle.length := by
      intro middle
      cases read : exponentPart? middle with
      | none => exact Nat.le_refl _
      | some part => exact Nat.le_of_lt (exponentPart?_length read)
    have both := exponent ((fractionPart? after).getD ([], after)).2
    split at read
    all_goals
      simp only [Option.some.injEq, Prod.mk.injEq] at read
      rw [← read.2]
      omega

theorem word?_length_le {words : List (Text × Value)} {text rest : Text} {value : Value}
    (read : word? words text = some (value, rest)) : rest.length ≤ text.length := by
  obtain ⟨word, _, found⟩ := List.exists_of_findSome?_eq_some read
  grind [→ Text.after?_length, Option.map_eq_some_iff]

theorem fixedDigits?_length_le {count number : Nat} {text rest : Text}
    (read : fixedDigits? count text = some (number, rest)) : rest.length ≤ text.length := by
  unfold fixedDigits? at read
  grind

theorem boundedPair?_length_le {low high number : Nat} {text rest : Text}
    (read : boundedPair? low high text = some (number, rest)) : rest.length ≤ text.length :=
  fixedDigits?_length_le (Option.filter_eq_some_iff.1 read).1

theorem character?_length_le {c : CodePoint} {text rest : Text}
    (read : character? c text = some rest) : rest.length ≤ text.length := by
  unfold character? at read
  grind

theorem skipFraction_length_le (text : Text) : (skipFraction text).length ≤ text.length := by
  unfold skipFraction
  grind [Text.length_dropWhile_le]

theorem time?_length_le {text rest : Text} (read : time? text = some rest) :
    rest.length ≤ text.length := by
  simp only [time?, Option.bind_eq_bind, Option.bind_eq_some_iff, Option.pure_def,
    Option.some.injEq] at read
  obtain ⟨hour, hourRead, _, firstColon, minute, minuteRead, _, secondColon, second, secondRead,
    equal⟩ := read
  have := boundedPair?_length_le hourRead
  have := character?_length_le firstColon
  have := boundedPair?_length_le minuteRead
  have := character?_length_le secondColon
  have := boundedPair?_length_le secondRead
  have := skipFraction_length_le second.2
  rw [← equal]
  omega

theorem numericOffset?_length_le {text rest : Text} (read : numericOffset? text = some rest) :
    rest.length ≤ text.length := by
  simp only [numericOffset?, Option.bind_eq_bind, Option.bind_eq_some_iff, Option.pure_def,
    Option.some.injEq] at read
  obtain ⟨hour, hourRead, _, colon, minute, minuteRead, equal⟩ := read
  have := boundedPair?_length_le hourRead
  have := character?_length_le colon
  have := boundedPair?_length_le minuteRead
  rw [← equal]
  omega

theorem skipOffset_length_le (text : Text) : (skipOffset text).length ≤ text.length := by
  cases text with
  | nil => exact Nat.le_refl _
  | cons c rest =>
      cases read : numericOffset? rest with
      | none => grind [skipOffset]
      | some after =>
          have := numericOffset?_length_le read
          grind [skipOffset]

theorem skipTimeOfDate_length_le (text : Text) :
    (skipTimeOfDate text).length ≤ text.length := by
  unfold skipTimeOfDate
  grind [→ time?_length_le, skipOffset_length_le, Option.map_eq_some_iff]

theorem date?_length_le {text rest : Text} {date : Nat × Nat × Nat}
    (read : date? text = some (date, rest)) : rest.length ≤ text.length := by
  simp only [date?, Option.bind_eq_bind, Option.bind_eq_some_iff, Option.pure_def,
    Option.some.injEq, Prod.mk.injEq] at read
  obtain ⟨year, yearRead, _, firstHyphen, month, monthRead, _, secondHyphen, day, dayRead,
    _, equal⟩ := read
  have := fixedDigits?_length_le yearRead
  have := character?_length_le firstHyphen
  have := boundedPair?_length_le monthRead
  have := character?_length_le secondHyphen
  have := boundedPair?_length_le dayRead
  rw [← equal]
  omega

theorem moment?_length_le {text rest : Text} {value : Except Stop Value}
    (read : moment? text = some (value, rest)) : rest.length ≤ text.length := by
  unfold moment? at read
  grind [→ date?_length_le, skipTimeOfDate_length_le, → time?_length_le,
    Option.map_eq_some_iff]

theorem withRest_rest {value : Except Stop Value} {item : Value} {rest after : Text}
    (read : withRest (value, after) = .ok (item, rest)) : rest = after := by
  cases value <;> simp_all [withRest]

theorem readPlainScalar_length_le {text rest : Text} {value : Value}
    (read : readPlainScalar text = .ok (value, rest)) : rest.length ≤ text.length := by
  unfold readPlainScalar at read
  grind [→ withRest_rest, → word?_length_le, → moment?_length_le, → basedInteger?_length,
    → decimalNumber?_length]

end Findings.Toml
