import Findings.Json.Token
import Findings.Json.Writer
import Findings.Proofs.Text.Joined

/-!
Contract: strings are read as they were written.

Owns:
- the shapes of written code points: themselves, an escape of one letter, one or two `\u` escapes;
- `readString_escaped`: the reader takes a written string for the string itself, if every surrogate
  pair in it is joined.

A string with an unjoined pair would be written as the escapes of the joined code point, so it could
not be told from another string.
-/

set_option autoImplicit false

namespace Findings.Json

/-! ## Escapes by number -/

theorem ofNat_eq_of_val {n : Nat} {c : CodePoint} (value : c.val = n) : CodePoint.ofNat n = c := by
  have bound : n < 0x110000 := value ▸ c.isLt
  unfold CodePoint.ofNat
  rw [dif_pos bound]
  exact (CodePoint.mk.injEq ..).mpr value.symm

/-- Four digits of a unit are read as the unit. -/
theorem fourHexDigits?_hexadecimal {unit : Nat} (bound : unit < 0x10000) (next : CodePoint)
    (rest : Text) :
    fourHexDigits? (Text.hexadecimal 4 unit ++ next :: rest) =
      some (CodePoint.ofNat unit, next :: rest) := by
  have digits : Text.hexadecimal 4 unit =
      [CodePoint.hexDigit (unit / 16 / 16 / 16), CodePoint.hexDigit (unit / 16 / 16),
        CodePoint.hexDigit (unit / 16), CodePoint.hexDigit unit] := rfl
  have value : ((unit / 16 / 16 / 16 % 16 * 16 + unit / 16 / 16 % 16) * 16 + unit / 16 % 16) * 16
      + unit % 16 = unit := by
    omega
  rw [digits]
  simp only [List.cons_append, List.nil_append, fourHexDigits?, CodePoint.hexValue?_hexDigit,
    Option.bind_eq_bind, Option.bind_some, Option.pure_def, value]

theorem unitEscape_append (unit : Nat) (rest : Text) :
    unitEscape unit ++ rest =
      CodePoint.ofChar '\\' :: CodePoint.ofChar 'u' :: (Text.hexadecimal 4 unit ++ rest) := rfl

theorem lowSurrogateEscape?_unitEscape {unit : Nat} (bound : unit < 0x10000) (next : CodePoint)
    (rest : Text) :
    lowSurrogateEscape? (unitEscape unit ++ next :: rest) =
      if (CodePoint.ofNat unit).isLowSurrogate then some (CodePoint.ofNat unit, next :: rest)
      else none := by
  rw [unitEscape_append, lowSurrogateEscape?, if_pos ⟨rfl, rfl⟩, fourHexDigits?_hexadecimal bound]

theorem lowSurrogateEscape?_of_ne {c : CodePoint} (plain : c ≠ CodePoint.ofChar '\\')
    (rest : Text) : lowSurrogateEscape? (c :: rest) = none := by
  unfold lowSurrogateEscape?
  split
  · rename_i equal
    cases equal
    rw [if_neg fun escape => plain escape.1]
  · rfl

/-! ## The shapes of written code points -/

/-- How a code point is written. -/
inductive Spelled : CodePoint → Text → Prop where
  | itself {c : CodePoint} (range : c.within 0x20 0x7E = true) (noQuote : c ≠ CodePoint.ofChar '"')
      (noBackslash : c ≠ CodePoint.ofChar '\\') : Spelled c [c]
  | letter {c letter : CodePoint} (escape : simpleEscape? letter = some c)
      (named : letter ≠ CodePoint.ofChar 'u') (range : letter.within 0x20 0x7E = true) :
      Spelled c [CodePoint.ofChar '\\', letter]
  | unit {c : CodePoint} (short : c.val < 0x10000) : Spelled c (unitEscape c.val)
  | pair {c : CodePoint} (long : 0x10000 ≤ c.val) :
      Spelled c (unitEscape (0xD800 + (c.val - 0x10000) / 0x400)
        ++ unitEscape (0xDC00 + (c.val - 0x10000) % 0x400))

theorem spelled_escapedPoint (c : CodePoint) : Spelled c (escapedPoint c) := by
  unfold escapedPoint
  by_cases isQuote : c = '"'
  · rw [if_pos isQuote, isQuote]
    exact .letter rfl (by decide) (by decide)
  rw [if_neg isQuote]
  by_cases isBackslash : c = '\\'
  · rw [if_pos isBackslash, isBackslash]
    exact .letter rfl (by decide) (by decide)
  rw [if_neg isBackslash]
  by_cases isLineFeed : c = '\n'
  · rw [if_pos isLineFeed, isLineFeed]
    exact .letter rfl (by decide) (by decide)
  rw [if_neg isLineFeed]
  by_cases isReturn : c = '\r'
  · rw [if_pos isReturn, isReturn]
    exact .letter rfl (by decide) (by decide)
  rw [if_neg isReturn]
  by_cases isTab : c = '\t'
  · rw [if_pos isTab, isTab]
    exact .letter rfl (by decide) (by decide)
  rw [if_neg isTab]
  by_cases isFormFeed : c = '\x0c'
  · rw [if_pos isFormFeed, isFormFeed]
    exact .letter rfl (by decide) (by decide)
  rw [if_neg isFormFeed]
  by_cases isBackspace : c = '\x08'
  · rw [if_pos isBackspace, isBackspace]
    exact .letter rfl (by decide) (by decide)
  rw [if_neg isBackspace]
  by_cases range : c.within 0x20 0x7E = true
  · rw [if_pos range]
    exact .itself range isQuote isBackslash
  rw [if_neg range]
  by_cases short : c.val < 0x10000
  · rw [if_pos short]
    exact .unit short
  · rw [if_neg short]
    exact .pair (by omega)

/-- Only a low surrogate is written as the escape of one. -/
theorem lowSurrogateEscape?_spelled {c : CodePoint} {spelling : Text} (spelled : Spelled c spelling)
    (notLow : c.isLowSurrogate = false) (next : CodePoint) (rest : Text) :
    lowSurrogateEscape? (spelling ++ next :: rest) = none := by
  cases spelled with
  | itself _ _ noBackslash => exact lowSurrogateEscape?_of_ne noBackslash _
  | @letter letter _ named _ =>
      have spelledOut : [CodePoint.ofChar '\\', letter] ++ next :: rest =
          CodePoint.ofChar '\\' :: letter :: next :: rest := rfl
      rw [spelledOut, lowSurrogateEscape?, if_neg fun escape => named escape.2]
  | unit short =>
      rw [lowSurrogateEscape?_unitEscape short, ofNat_eq_of_val rfl, notLow]
      rfl
  | pair long =>
      have bound := c.isLt
      have isHigh :
          (CodePoint.ofNat (0xD800 + (c.val - 0x10000) / 0x400)).isLowSurrogate = false := by
        unfold CodePoint.ofNat
        rw [dif_pos (by omega)]
        exact CodePoint.within_eq_false_iff.2 (.inl (by simp only; omega))
      rw [List.append_assoc, unitEscape_append (0xDC00 + (c.val - 0x10000) % 0x400),
        lowSurrogateEscape?_unitEscape (by omega), isHigh]
      rfl

/-! ## Reading step by step -/

section Steps

variable (opening before : Text)

theorem readString_quote (rest : Text) :
    readString opening before (CodePoint.ofChar '"' :: rest) = (.text before.reverse, rest) := by
  rw [readString.eq_def]
  exact if_pos rfl

theorem readString_itself {c : CodePoint} (range : 0x20 ≤ c.val)
    (noQuote : c ≠ CodePoint.ofChar '"') (noBackslash : c ≠ CodePoint.ofChar '\\') (rest : Text) :
    readString opening before (c :: rest) = readString opening (c :: before) rest := by
  rw [readString.eq_def]
  simp only
  rw [if_neg noQuote, if_neg noBackslash, if_neg (by omega)]

theorem readString_letter {c letter : CodePoint} (escape : simpleEscape? letter = some c)
    (named : letter ≠ CodePoint.ofChar 'u') (rest : Text) :
    readString opening before (CodePoint.ofChar '\\' :: letter :: rest) =
      readString opening (c :: before) rest := by
  rw [readString, if_neg (by decide), if_pos rfl, if_neg named, escape]

theorem readString_unicode {after rest : Text} {c : CodePoint}
    (escape : unicodeEscape? after = some (c, rest)) :
    readString opening before (CodePoint.ofChar '\\' :: CodePoint.ofChar 'u' :: after) =
      readString opening (c :: before) rest := by
  rw [readString, if_neg (by decide), if_pos rfl, if_pos rfl]
  split
  · rename_i equal
    rw [escape] at equal
    cases equal
    rfl
  · rename_i equal
    rw [escape] at equal
    cases equal

/-- The escape of a unit stands for the unit, unless it is the first half of a pair. -/
theorem unicodeEscape?_unit {c next : CodePoint} (short : c.val < 0x10000) {rest : Text}
    (alone : c.isHighSurrogate = true → lowSurrogateEscape? (next :: rest) = none) :
    unicodeEscape? (Text.hexadecimal 4 c.val ++ next :: rest) = some (c, next :: rest) := by
  rw [unicodeEscape?, fourHexDigits?_hexadecimal short, ofNat_eq_of_val rfl]
  by_cases high : c.isHighSurrogate = true
  · simp only [high, if_true, alone high]
  · simp only [high, Bool.false_eq_true, if_false]

/-- The escapes of the two halves of a code point stand for the code point. -/
theorem unicodeEscape?_pair {c : CodePoint} (long : 0x10000 ≤ c.val) (next : CodePoint)
    (rest : Text) :
    unicodeEscape? (Text.hexadecimal 4 (0xD800 + (c.val - 0x10000) / 0x400)
        ++ (unitEscape (0xDC00 + (c.val - 0x10000) % 0x400) ++ next :: rest)) =
      some (c, next :: rest) := by
  have bound := c.isLt
  obtain ⟨high, isHigh⟩ : ∃ high : CodePoint, high.val = 0xD800 + (c.val - 0x10000) / 0x400 :=
    ⟨⟨_, by omega⟩, rfl⟩
  obtain ⟨low, isLow⟩ : ∃ low : CodePoint, low.val = 0xDC00 + (c.val - 0x10000) % 0x400 :=
    ⟨⟨_, by omega⟩, rfl⟩
  have highHalf : high.isHighSurrogate = true := CodePoint.within_eq_true_iff.2 (by omega)
  have lowHalf : low.isLowSurrogate = true := CodePoint.within_eq_true_iff.2 (by omega)
  have joined : CodePoint.joinSurrogates high low = c := by
    have value : (CodePoint.joinSurrogates high low).val = c.val := by
      simp only [CodePoint.joinSurrogates]
      omega
    rw [← ofNat_eq_of_val value, ofNat_eq_of_val rfl]
  rw [unicodeEscape?, unitEscape_append, fourHexDigits?_hexadecimal (by omega), ← unitEscape_append,
    ofNat_eq_of_val isHigh]
  simp only [highHalf, if_true]
  rw [lowSurrogateEscape?_unitEscape (by omega), ofNat_eq_of_val isLow, if_pos lowHalf]
  simp only [joined]

/-- A written code point is read as itself. -/
theorem readString_spelled {c : CodePoint} {spelling : Text} (spelled : Spelled c spelling)
    {next : CodePoint} {rest : Text}
    (alone : c.isHighSurrogate = true → lowSurrogateEscape? (next :: rest) = none) :
    readString opening before (spelling ++ next :: rest) =
      readString opening (c :: before) (next :: rest) := by
  cases spelled with
  | itself range noQuote noBackslash =>
      exact readString_itself opening before (CodePoint.within_eq_true_iff.1 range).1 noQuote
        noBackslash _
  | letter escape named _ => exact readString_letter opening before escape named _
  | unit short =>
      rw [unitEscape_append]
      exact readString_unicode opening before (unicodeEscape?_unit short alone)
  | pair long =>
      rw [List.append_assoc, unitEscape_append]
      exact readString_unicode opening before (unicodeEscape?_pair long next rest)

end Steps

/-! ## Whole strings -/

theorem exists_cons_of_escaped (text rest : Text) :
    ∃ next tail, text.flatMap escapedPoint ++ CodePoint.ofChar '"' :: rest = next :: tail :=
  List.exists_cons_of_ne_nil (by simp)

/-- **A written string is read as the string itself**, if every surrogate pair in it is joined. -/
theorem readString_escaped (opening : Text) {text : Text} (joined : text.IsJoined)
    (before rest : Text) :
    readString opening before (text.flatMap escapedPoint ++ CodePoint.ofChar '"' :: rest) =
      (.text (before.reverse ++ text), rest) := by
  induction text generalizing before with
  | nil => rw [List.flatMap_nil, List.nil_append, readString_quote, List.append_nil]
  | cons c text inductionHypothesis =>
      obtain ⟨apart, restJoined⟩ := Text.isJoined_cons_iff.1 joined
      obtain ⟨next, tail, isCons⟩ := exists_cons_of_escaped text rest
      -- Nothing behind a high surrogate is read as its second half.
      have alone : c.isHighSurrogate = true → lowSurrogateEscape? (next :: tail) = none := by
        intro high
        rw [← isCons]
        cases text with
        | nil => exact lowSurrogateEscape?_of_ne (by decide) rest
        | cons second others =>
            have notLow : second.isLowSurrogate = false := by
              rw [← Bool.not_eq_true]
              exact fun low => apart second rfl ⟨high, low⟩
            obtain ⟨third, more, isMore⟩ := exists_cons_of_escaped others rest
            rw [List.flatMap_cons, List.append_assoc, isMore]
            exact lowSurrogateEscape?_spelled (spelled_escapedPoint second) notLow third more
      rw [List.flatMap_cons, List.append_assoc, isCons,
        readString_spelled opening before (spelled_escapedPoint c) alone, ← isCons,
        inductionHypothesis restJoined, List.reverse_cons, List.append_assoc]
      rfl

end Findings.Json
