import Findings.Toml.Basic

/-!
Contract: the strings of TOML text.

Owns: basic strings with escapes and literal strings without, each on one line or over several.

Every reader here begins behind the opening quotes and ends behind the closing ones.
-/

set_option autoImplicit false

namespace Findings.Toml

def quoteMark : CodePoint := CodePoint.ofChar '"'

def apostrophe : CodePoint := CodePoint.ofChar '\x27'

/-! ## Literal strings -/

/-- Cut a text at the first occurrence of a delimiter; the part before it is kept in reverse. -/
def cutAt (delimiter : Text) (before : Text) : Text → Option (Text × Text)
  | [] => none
  | c :: rest =>
      match Text.after? delimiter (c :: rest) with
      | some after => some (before.reverse, after)
      | none => cutAt delimiter (c :: before) rest

/-- Read a literal string up to its delimiter. -/
def readLiteral (delimiter : Text) (refused : CodePoint → Bool) (text : Text) : Read Text :=
  match cutAt delimiter [] text with
  | none => .error (.fault (.expectedDelimiter delimiter) [])
  | some (content, after) =>
      match content.find? refused with
      | some c => .error (.fault (.invalidCharacter c) (text.dropWhile fun c => !refused c))
      | none => .ok (content, after)

/-! ## Basic strings -/

/-- What an escape of one letter denotes. -/
def simpleEscape? (c : CodePoint) : Option CodePoint :=
  if c = 'b' then some '\x08'
  else if c = 't' then some '\t'
  else if c = 'n' then some '\n'
  else if c = 'f' then some '\x0c'
  else if c = 'r' then some '\r'
  else if c = '"' then some '"'
  else if c = '\\' then some '\\'
  else none

/-- The number that hexadecimal digits denote. -/
def hexNumber? (digits : Text) : Option Nat :=
  digits.foldlM (fun value c => c.hexValue?.map fun digit => value * 16 + digit) 0

/-- Read a code point from a fixed count of hexadecimal digits. -/
def readHexPoint (count : Nat) (text : Text) : Read (Option CodePoint) :=
  if (text.take count).length < count then .error (.fault .invalidHexValue text)
  else
    match hexNumber? (text.take count) with
    | none => .error (.fault .invalidHexValue text)
    | some value =>
        if scalar : value < 0xD800 ∨ (0xE000 ≤ value ∧ value < 0x110000) then
          .ok (some ⟨value, by omega⟩, text.drop count)
        else .error (.fault .notScalarValue (text.drop count))

/-- Read an escape behind its backslash.  In a string over several lines a backslash at the end of a
line takes the line end and all blanks after it away. -/
def readEscape (multiline : Bool) : (text : Text) → Read (Option CodePoint)
  | [] => .error (.fault .unescapedBackslash [])
  | c :: rest =>
      if multiline && isBlankOrNewline c then
        if c = Text.lineFeed then .ok (none, rest.dropWhile isBlankOrNewline)
        else
          match rest.dropWhile isBlank with
          | [] => .ok (none, [])
          | next :: after =>
              if next = Text.lineFeed then .ok (none, after.dropWhile isBlankOrNewline)
              else .error (.fault .unescapedBackslash (next :: after))
      else if c = 'u' then readHexPoint 4 rest
      else if c = 'U' then readHexPoint 8 rest
      else
        match simpleEscape? c with
        | some point => .ok (some point, rest)
        | none => .error (.fault .unescapedBackslash rest)

theorem readHexPoint_length_le {count : Nat} {text rest : Text} {point : Option CodePoint}
    (read : readHexPoint count text = .ok (point, rest)) : rest.length ≤ text.length := by
  unfold readHexPoint at read
  split at read
  · cases read
  · split at read
    · cases read
    · split at read
      · cases read
        simp only [List.length_drop]
        omega
      · cases read

theorem readEscape_length_le {multiline : Bool} {text rest : Text} {point : Option CodePoint}
    (read : readEscape multiline text = .ok (point, rest)) : rest.length ≤ text.length := by
  unfold readEscape at read
  split at read
  · cases read
  · rename_i c after
    simp only [List.length_cons]
    split at read
    · split at read
      · cases read
        have := Text.length_dropWhile_le isBlankOrNewline after
        omega
      · have blanks := Text.length_dropWhile_le isBlank after
        split at read
        · cases read; simp
        · rename_i next afterNext drop
          rw [drop] at blanks
          split at read
          · cases read
            have := Text.length_dropWhile_le isBlankOrNewline afterNext
            simp only [List.length_cons] at blanks
            omega
          · cases read
    · split at read
      · have := readHexPoint_length_le read
        omega
      · split at read
        · have := readHexPoint_length_le read
          omega
        · split at read
          · cases read; omega
          · cases read

/-- The controls that a basic string may not hold. -/
def isRefused (multiline : Bool) (c : CodePoint) : Bool :=
  if multiline then isTextControl c else isLineControl c

/-- Read a basic string; what is read so far is kept in reverse. -/
def readBasic (multiline : Bool) (before : Text) : (text : Text) → Read Text
  | [] => .error (.fault .unterminatedString [])
  | c :: rest =>
      if c = quoteMark then
        if multiline then
          match Text.after? [quoteMark, quoteMark] rest with
          | some after => .ok (before.reverse, after)
          | none => readBasic multiline (c :: before) rest
        else .ok (before.reverse, rest)
      else if c = '\\' then
        match _escape : readEscape multiline rest with
        | .error stop => .error stop
        | .ok (point, after) => readBasic multiline (point.toList ++ before) after
      else if isRefused multiline c then .error (.fault (.illegalCharacter c) (c :: rest))
      else readBasic multiline (c :: before) rest
termination_by text => text.length
decreasing_by
  · simp only [List.length_cons]
    omega
  · have := readEscape_length_le _escape
    simp only [List.length_cons]
    omega
  · simp only [List.length_cons]
    omega

/-! ## Strings over several lines -/

/-- Three times a quote. -/
def threefold (quote : CodePoint) : Text := [quote, quote, quote]

/-- A line feed right behind the opening quotes does not count. -/
def skipFirstLineFeed : Text → Text
  | [] => []
  | c :: rest => if c = Text.lineFeed then rest else c :: rest

/-- Up to two more quotes behind the closing ones belong to the string. -/
def readExtraQuotes (quote : CodePoint) (content : Text) : Text → Text × Text
  | [] => (content, [])
  | [c] => if c = quote then (content ++ [quote], []) else (content, [c])
  | c :: d :: rest =>
      if c = quote then
        if d = quote then (content ++ [quote, quote], rest) else (content ++ [quote], d :: rest)
      else (content, c :: d :: rest)

/-- Read a string over several lines. -/
def readMultiline (quote : CodePoint) (text : Text) : Read Text :=
  let content :=
    if quote = apostrophe then
      readLiteral (threefold apostrophe) isTextControl (skipFirstLineFeed text)
    else readBasic true [] (skipFirstLineFeed text)
  content.map fun read => readExtraQuotes quote read.1 read.2

/-- Read a string on one line. -/
def readOneLine (quote : CodePoint) (text : Text) : Read Text :=
  if quote = apostrophe then readLiteral [apostrophe] isLineControl text
  else readBasic false [] text

/-- Read a string that begins with `quote`. -/
def readString (quote : CodePoint) (text : Text) : Read Text :=
  match Text.after? [quote, quote] text with
  | some after => readMultiline quote after
  | none => readOneLine quote text

/-! ## Progress -/

theorem cutAt_length_le {delimiter before text content rest : Text}
    (read : cutAt delimiter before text = some (content, rest)) : rest.length ≤ text.length := by
  fun_induction cutAt delimiter before text with
  | case1 => cases read
  | case2 =>
      rename_i found
      cases read
      have := Text.after?_length found
      omega
  | case3 =>
      rename_i inductionHypothesis
      have := inductionHypothesis read
      simp only [List.length_cons]
      omega

theorem readLiteral_length_le {delimiter text content rest : Text} {refused : CodePoint → Bool}
    (read : readLiteral delimiter refused text = .ok (content, rest)) :
    rest.length ≤ text.length := by
  unfold readLiteral at read
  split at read
  · cases read
  · rename_i cut
    split at read
    · cases read
    · cases read
      exact cutAt_length_le cut

theorem readBasic_length_le {multiline : Bool} {before text content rest : Text}
    (read : readBasic multiline before text = .ok (content, rest)) :
    rest.length ≤ text.length := by
  fun_induction readBasic multiline before text with
  | case1 => cases read
  | case2 =>
      rename_i found
      cases read
      have := Text.after?_length found
      simp only [List.length_cons, List.length_nil] at this ⊢
      omega
  | case3 =>
      rename_i inductionHypothesis
      have := inductionHypothesis read
      simp only [List.length_cons]
      omega
  | case4 => cases read; simp
  | case5 => cases read
  | case6 =>
      rename_i escape _ inductionHypothesis
      have := inductionHypothesis read
      have := readEscape_length_le ‹_›
      simp only [List.length_cons]
      omega
  | case7 => cases read
  | case8 =>
      rename_i inductionHypothesis
      have := inductionHypothesis read
      simp only [List.length_cons]
      omega

theorem skipFirstLineFeed_length_le (text : Text) :
    (skipFirstLineFeed text).length ≤ text.length := by
  unfold skipFirstLineFeed
  split
  · exact Nat.le_refl _
  · split
    · simp
    · exact Nat.le_refl _

theorem readExtraQuotes_length_le (quote : CodePoint) (content text : Text) :
    (readExtraQuotes quote content text).2.length ≤ text.length := by
  unfold readExtraQuotes
  split
  · exact Nat.le_refl _
  · split <;> simp
  · split
    · split
      · simp only [List.length_cons]; omega
      · simp
    · exact Nat.le_refl _

theorem readMultiline_length_le {quote : CodePoint} {text content rest : Text}
    (read : readMultiline quote text = .ok (content, rest)) : rest.length ≤ text.length := by
  have first := skipFirstLineFeed_length_le text
  unfold readMultiline at read
  simp only at read
  have inner : ∀ (inside after : Text),
      (if quote = apostrophe then
        readLiteral (threefold apostrophe) isTextControl (skipFirstLineFeed text)
      else readBasic true [] (skipFirstLineFeed text)) = .ok (inside, after) →
      after.length ≤ (skipFirstLineFeed text).length := by
    intro inside after equal
    split at equal
    · exact readLiteral_length_le equal
    · exact readBasic_length_le equal
  generalize (if quote = apostrophe then
      readLiteral (threefold apostrophe) isTextControl (skipFirstLineFeed text)
    else readBasic true [] (skipFirstLineFeed text)) = content at read inner
  cases content with
  | error stop => cases read
  | ok pair =>
      obtain ⟨inside, after⟩ := pair
      have shorter := inner inside after rfl
      have extra := readExtraQuotes_length_le quote inside after
      simp only [Except.map, Except.ok.injEq] at read
      rw [read] at extra
      simp only at extra
      omega

theorem readOneLine_length_le {quote : CodePoint} {text content rest : Text}
    (read : readOneLine quote text = .ok (content, rest)) : rest.length ≤ text.length := by
  unfold readOneLine at read
  split at read
  · exact readLiteral_length_le read
  · exact readBasic_length_le read

theorem readString_length_le {quote : CodePoint} {text content rest : Text}
    (read : readString quote text = .ok (content, rest)) : rest.length ≤ text.length := by
  unfold readString at read
  split at read
  · rename_i found
    have := Text.after?_length found
    have := readMultiline_length_le read
    omega
  · exact readOneLine_length_le read

end Findings.Toml
