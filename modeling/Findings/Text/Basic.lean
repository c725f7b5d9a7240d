/-!
Contract: text as a list of code points.

Owns:
- the type `CodePoint`, which unlike `Char` also admits surrogates, because escapes in a lint report
  can name a surrogate that has no partner;
- the type `Text` with its literals, numerals, splitting, trimming, joining and order.

Does not own: bytes (`Findings.Text.Utf8`), character classes from the Unicode tables
(`Findings.Text.Blank`, `Findings.Text.Printable`, `Findings.Text.Width`).
-/

set_option autoImplicit false

namespace Findings

/-- A Unicode code point, surrogates included. -/
structure CodePoint where
  val : Nat
  isLt : val < 0x110000
  deriving DecidableEq

namespace CodePoint

/-- The code point of a character. -/
def ofChar (c : Char) : CodePoint where
  val := c.toNat
  isLt := by
    rcases c.valid with low | high
    · exact Nat.lt_trans low (by decide)
    · exact high.2

instance : Coe Char CodePoint := ⟨ofChar⟩

instance : Inhabited CodePoint := ⟨ofChar ' '⟩

/-- The replacement character, which stands for bytes that are no text. -/
def replacement : CodePoint := ⟨0xFFFD, by decide⟩

/-- The code point of a number; a number beyond the last code point gives the replacement
character. -/
def ofNat (n : Nat) : CodePoint :=
  if h : n < 0x110000 then ⟨n, h⟩ else replacement

/-- The byte order mark. -/
def byteOrderMark : CodePoint := ⟨0xFEFF, by decide⟩

/-- Whether a code point lies between two values, ends included. -/
def within (low high : Nat) (c : CodePoint) : Bool :=
  decide (low ≤ c.val) && decide (c.val ≤ high)

/-- Surrogates have no encoding of their own. -/
def isSurrogate (c : CodePoint) : Bool := c.within 0xD800 0xDFFF

/-- The first half of a surrogate pair. -/
def isHighSurrogate (c : CodePoint) : Bool := c.within 0xD800 0xDBFF

/-- The second half of a surrogate pair. -/
def isLowSurrogate (c : CodePoint) : Bool := c.within 0xDC00 0xDFFF

/-- The surrogates that can stand for a byte that is no text. -/
def isEscapedByte (c : CodePoint) : Bool := c.within 0xDC80 0xDCFF

/-- The code point that a high and a low surrogate name together.  Only the low ten bits of each
half count. -/
def joinSurrogates (high low : CodePoint) : CodePoint where
  val := 0x10000 + (high.val % 0x400) * 0x400 + low.val % 0x400
  isLt := by omega

/-- The decimal digits. -/
def isDigit (c : CodePoint) : Bool := c.within 0x30 0x39

/-- The letters `A` to `Z`. -/
def isUpper (c : CodePoint) : Bool := c.within 0x41 0x5A

/-- The letters `a` to `z`. -/
def isLower (c : CodePoint) : Bool := c.within 0x61 0x7A

/-- The letters and digits of ASCII. -/
def isAlphanumeric (c : CodePoint) : Bool := c.isDigit || c.isUpper || c.isLower

/-- A small letter becomes its capital, everything else stays. -/
def toUpper (c : CodePoint) : CodePoint :=
  if h : c.isLower then
    ⟨c.val - 0x20, by have := c.isLt; omega⟩
  else c

/-- A capital becomes its small letter, everything else stays. -/
def toLower (c : CodePoint) : CodePoint :=
  if h : c.isUpper then
    ⟨c.val + 0x20, by
      have bound : c.val ≤ 0x5A := by
        simp only [isUpper, within, Bool.and_eq_true, decide_eq_true_eq] at h
        exact h.2
      omega⟩
  else c

/-- The value of a decimal digit. -/
def digitValue (c : CodePoint) : Nat := c.val - 0x30

/-- The value of a hexadecimal digit in either case. -/
def hexValue? (c : CodePoint) : Option Nat :=
  if c.isDigit then some (c.val - 0x30)
  else if c.within 0x61 0x66 then some (c.val - 0x61 + 10)
  else if c.within 0x41 0x46 then some (c.val - 0x41 + 10)
  else none

/-- The digit of a value below sixteen, in small letters; larger values wrap around. -/
def hexDigit (n : Nat) : CodePoint :=
  if n % 16 < 10 then ⟨0x30 + n % 16, by omega⟩ else ⟨0x61 + (n % 16 - 10), by omega⟩

/-- The decimal digit of a value below ten; larger values wrap around. -/
def decimalDigit (n : Nat) : CodePoint := ⟨0x30 + n % 10, by omega⟩

end CodePoint

/-- Text is a list of code points. -/
abbrev Text := List CodePoint

namespace Text

/-- The text of a literal. -/
def ofString (s : String) : Text := s.toList.map CodePoint.ofChar

instance : Coe String Text := ⟨ofString⟩

/-- The characters of a text, or nothing when it holds a surrogate. -/
def toString? (text : Text) : Option String :=
  if text.any CodePoint.isSurrogate then none
  else some (String.ofList (text.map fun c => Char.ofNat c.val))

/-- The decimal numeral of a natural number, put in front of `after`. -/
def decimalBefore (n : Nat) (after : Text) : Text :=
  if n < 10 then CodePoint.decimalDigit n :: after
  else decimalBefore (n / 10) (CodePoint.decimalDigit n :: after)
termination_by n

/-- The decimal numeral of a natural number. -/
def ofNat (n : Nat) : Text := decimalBefore n []

/-- The decimal numeral of an integer. -/
def ofInt : Int → Text
  | .ofNat n => ofNat n
  | .negSucc n => CodePoint.ofChar '-' :: ofNat (n + 1)

/-- The number that a run of decimal digits denotes. -/
def natValue (digits : Text) : Nat :=
  digits.foldl (fun value c => value * 10 + c.digitValue) 0

/-- The last `width` hexadecimal digits of a number, in small letters. -/
def hexadecimal : (width : Nat) → Nat → Text
  | 0, _ => []
  | width + 1, n => hexadecimal width (n / 16) ++ [CodePoint.hexDigit n]

/-- Repeat a code point. -/
def replicate (count : Nat) (c : CodePoint) : Text := List.replicate count c

/-- Join parts with a separator between neighbours. -/
def join (separator : Text) (parts : List Text) : Text := List.intercalate separator parts

/-- The maximal parts between occurrences of a separator; there is one more than separators. -/
def splitOn (separator : CodePoint) (text : Text) : List Text :=
  text.foldr (fun c parts =>
    if c = separator then [] :: parts
    else match parts with
      | [] => [[c]]
      | part :: others => (c :: part) :: others) [[]]

/-- Drop a class of code points at the end. -/
def trimEnd (inClass : CodePoint → Bool) (text : Text) : Text :=
  (text.reverse.dropWhile inClass).reverse

/-- Drop a class of code points at both ends. -/
def trim (inClass : CodePoint → Bool) (text : Text) : Text :=
  trimEnd inClass (text.dropWhile inClass)

/-- Lexicographic order by code point. -/
def ble : Text → Text → Bool
  | [], _ => true
  | _ :: _, [] => false
  | a :: left, b :: right =>
      if a.val < b.val then true else if b.val < a.val then false else ble left right

/-- The rest of a text after a given beginning, when it begins so. -/
def after? : (beginning : Text) → Text → Option Text
  | [], text => some text
  | _ :: _, [] => none
  | a :: beginning, b :: text => if a = b then after? beginning text else none

theorem after?_length {beginning text rest : Text} (found : after? beginning text = some rest) :
    text.length = beginning.length + rest.length := by
  fun_induction after? beginning text with
  | case1 text => cases found; simp
  | case2 => cases found
  | case3 =>
      rename_i inductionHypothesis
      rw [List.length_cons, List.length_cons, inductionHypothesis found]
      omega
  | case4 => cases found

theorem length_dropWhile_le (inClass : CodePoint → Bool) (text : Text) :
    (text.dropWhile inClass).length ≤ text.length :=
  (List.dropWhile_suffix inClass).sublist.length_le

/-- Whether a text begins with another one. -/
def startsWith (text beginning : Text) : Bool := (after? beginning text).isSome

end Text

end Findings
