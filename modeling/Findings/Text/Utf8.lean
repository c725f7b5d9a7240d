import Findings.Text.Basic

/-!
Contract: text as bytes in UTF-8.

Owns:
- encoding, which fails exactly on text that holds a surrogate, and then names the first run of
  them;
- decoding into units, each a code point or a maximal ill-formed part, and its two uses: strict
  decoding, which fails at the first ill-formed part, and lenient decoding, which puts one
  replacement character in its place.

Does not own: line ends (`Findings.Text.Lines`).
-/

set_option autoImplicit false

namespace Findings.Text

/-! ## Encoding -/

/-- The first run of surrogates in a text that was to be encoded. -/
structure EncodeFault where
  start : Nat
  count : Nat
  first : CodePoint
  deriving DecidableEq

/-- The wording of an encoding failure.  A run of one surrogate is shown, a longer one is only
located. -/
def EncodeFault.message (fault : EncodeFault) : Text :=
  if fault.count = 1 then
    ofString "'utf-8' codec can't encode character '\\u" ++ hexadecimal 4 fault.first.val
      ++ ofString "' in position " ++ ofNat fault.start ++ ofString ": surrogates not allowed"
  else
    ofString "'utf-8' codec can't encode characters in position " ++ ofNat fault.start
      ++ ofString "-" ++ ofNat (fault.start + fault.count - 1)
      ++ ofString ": surrogates not allowed"

/-- The bytes of one code point. -/
def utf8Bytes (c : CodePoint) : List UInt8 :=
  if c.val < 0x80 then [c.val.toUInt8]
  else if c.val < 0x800 then
    [(0xC0 + c.val / 0x40).toUInt8, (0x80 + c.val % 0x40).toUInt8]
  else if c.val < 0x10000 then
    [(0xE0 + c.val / 0x1000).toUInt8, (0x80 + c.val / 0x40 % 0x40).toUInt8,
      (0x80 + c.val % 0x40).toUInt8]
  else
    [(0xF0 + c.val / 0x40000).toUInt8, (0x80 + c.val / 0x1000 % 0x40).toUInt8,
      (0x80 + c.val / 0x40 % 0x40).toUInt8, (0x80 + c.val % 0x40).toUInt8]

/-- The first run of surrogates, when there is one. -/
def surrogateRun? (text : Text) : Option EncodeFault :=
  match text.dropWhile (fun c => !c.isSurrogate) with
  | [] => none
  | first :: rest =>
      some {
        start := (text.takeWhile fun c => !c.isSurrogate).length
        count := 1 + (rest.takeWhile CodePoint.isSurrogate).length
        first := first }

/-- The first surrogate at a position or behind it that stands for no byte, and those that follow it. -/
def unescapedRunFrom (position : Nat) : (text : Text) → Option EncodeFault
  | [] => none
  | c :: rest =>
      if c.isSurrogate && !c.isEscapedByte then
        some {
          start := position
          count := 1 + (rest.takeWhile CodePoint.isSurrogate).length
          first := c }
      else unescapedRunFrom (position + 1) rest

/-- The first surrogate in a text that stands for no byte, and those that follow it. -/
def unescapedRun? (text : Text) : Option EncodeFault := unescapedRunFrom 0 text

/-- The bytes of a text without surrogates. -/
def encodeUtf8 (text : Text) : Except EncodeFault (List UInt8) :=
  match surrogateRun? text with
  | some fault => .error fault
  | none => .ok (text.flatMap utf8Bytes)

/-- A text in which every surrogate is spelled out. -/
def spellSurrogates (text : Text) : Text :=
  text.flatMap fun c =>
    if c.isSurrogate then ofString "\\u" ++ hexadecimal 4 c.val else [c]

/-! ## Decoding -/

/-- Why bytes are not UTF-8. -/
inductive DecodeCause
  | invalidStart
  | invalidContinuation
  | unexpectedEnd
  deriving DecidableEq, Repr

def DecodeCause.message : DecodeCause → Text
  | .invalidStart => "invalid start byte"
  | .invalidContinuation => "invalid continuation byte"
  | .unexpectedEnd => "unexpected end of data"

/-- An ill-formed part: its bytes are `length` many from `start` on, and `first` is the first. -/
structure DecodeFault where
  cause : DecodeCause
  start : Nat
  length : Nat
  first : UInt8
  deriving DecidableEq

/-- The wording of a decoding failure.  A part of one byte is shown, a longer one is only
located. -/
def DecodeFault.message (fault : DecodeFault) : Text :=
  if fault.length = 1 then
    ofString "'utf-8' codec can't decode byte 0x" ++ hexadecimal 2 fault.first.toNat
      ++ ofString " in position " ++ ofNat fault.start ++ ofString ": " ++ fault.cause.message
  else
    ofString "'utf-8' codec can't decode bytes in position " ++ ofNat fault.start
      ++ ofString "-" ++ ofNat (fault.start + fault.length - 1)
      ++ ofString ": " ++ fault.cause.message

/-- What a first byte promises: its share of the value, the range of the second byte, and how many
bytes are to follow. -/
structure Lead where
  payload : Nat
  low : Nat
  high : Nat
  tails : Nat

/-- The promise of a first byte; none when no code point begins with it. -/
def Lead.of? (byte : Nat) : Option Lead :=
  if byte < 0x80 then some ⟨byte, 0x80, 0xBF, 0⟩
  else if byte < 0xC2 then none
  else if byte < 0xE0 then some ⟨byte - 0xC0, 0x80, 0xBF, 1⟩
  else if byte = 0xE0 then some ⟨0, 0xA0, 0xBF, 2⟩
  else if byte = 0xED then some ⟨0xD, 0x80, 0x9F, 2⟩
  else if byte < 0xF0 then some ⟨byte - 0xE0, 0x80, 0xBF, 2⟩
  else if byte = 0xF0 then some ⟨0, 0x90, 0xBF, 3⟩
  else if byte < 0xF4 then some ⟨byte - 0xF0, 0x80, 0xBF, 3⟩
  else if byte = 0xF4 then some ⟨4, 0x80, 0x8F, 3⟩
  else none

/-- One unit of decoding: a code point, or an ill-formed part of `length` bytes. -/
inductive DecodeUnit
  | point (c : CodePoint)
  | illFormed (cause : DecodeCause) (length : Nat) (first : UInt8)
  deriving DecidableEq

/-- Read the bytes that a first byte promised.  A part ends before the first byte that breaks the
promise. -/
def readTails (first : UInt8) :
    (tails low high value length : Nat) → List UInt8 → DecodeUnit × List UInt8
  | 0, _, _, value, _, bytes => (.point (CodePoint.ofNat value), bytes)
  | _ + 1, _, _, _, length, [] => (.illFormed .unexpectedEnd length first, [])
  | tails + 1, low, high, value, length, byte :: bytes =>
      if low ≤ byte.toNat ∧ byte.toNat ≤ high then
        readTails first tails 0x80 0xBF (value * 0x40 + byte.toNat % 0x40) (length + 1) bytes
      else (.illFormed .invalidContinuation length first, byte :: bytes)

/-- The first unit of a byte sequence that begins with `first`, and the bytes after it. -/
def readUnit (first : UInt8) (bytes : List UInt8) : DecodeUnit × List UInt8 :=
  match Lead.of? first.toNat with
  | none => (.illFormed .invalidStart 1 first, bytes)
  | some lead => readTails first lead.tails lead.low lead.high lead.payload 1 bytes

theorem readTails_length_le (first : UInt8) :
    ∀ (tails low high value length : Nat) (bytes : List UInt8),
      (readTails first tails low high value length bytes).2.length ≤ bytes.length
  | 0, _, _, _, _, _ => Nat.le_refl _
  | _ + 1, _, _, _, _, [] => Nat.le_refl _
  | tails + 1, low, high, value, length, byte :: bytes => by
      rw [readTails]
      split
      · exact Nat.le_succ_of_le (readTails_length_le first tails _ _ _ _ bytes)
      · exact Nat.le_refl _

theorem readUnit_length_le (first : UInt8) (bytes : List UInt8) :
    (readUnit first bytes).2.length ≤ bytes.length := by
  unfold readUnit
  split
  · exact Nat.le_refl _
  · exact readTails_length_le first _ _ _ _ _ _

/-- The units of a byte sequence, put behind the units `before` in reverse. -/
def decodeUnitsAfter (before : List DecodeUnit) : List UInt8 → List DecodeUnit
  | [] => before.reverse
  | first :: bytes =>
      decodeUnitsAfter ((readUnit first bytes).1 :: before) (readUnit first bytes).2
termination_by bytes => bytes.length
decreasing_by
  have := readUnit_length_le first bytes
  simp only [List.length_cons]
  omega

/-- The units of a byte sequence. -/
def decodeUnits (bytes : List UInt8) : List DecodeUnit := decodeUnitsAfter [] bytes

/-- Collect units that are all code points; the text read so far is kept in reverse, and `offset`
counts its bytes. -/
def collectUnits (before : Text) (offset : Nat) : List DecodeUnit → Except DecodeFault Text
  | [] => .ok before.reverse
  | .point c :: units => collectUnits (c :: before) (offset + (utf8Bytes c).length) units
  | .illFormed cause length first :: _ => .error ⟨cause, offset, length, first⟩

/-- Decode bytes; the first ill-formed part is a failure. -/
def decodeUtf8 (bytes : List UInt8) : Except DecodeFault Text :=
  collectUnits [] 0 (decodeUnits bytes)

/-- The code point that lenient decoding puts for a unit. -/
def DecodeUnit.replaced : DecodeUnit → CodePoint
  | .point c => c
  | .illFormed .. => CodePoint.replacement

/-- Decode bytes; every ill-formed part becomes one replacement character. -/
def decodeUtf8Lenient (bytes : List UInt8) : Text :=
  (decodeUnits bytes).map DecodeUnit.replaced

end Findings.Text
