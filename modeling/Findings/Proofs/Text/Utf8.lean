import Findings.Proofs.Text.Joined
import Findings.Text.Utf8

/-!
Contract: decoding what was encoded.

Owns: the bytes of a code point that is no surrogate are read as one unit, which is that code point,
whatever follows them; so a text without surrogates comes back from its bytes
(`decodeUtf8Lenient_utf8Bytes`, `decodeUtf8_utf8Bytes`).

Does not own: what is read of bytes that are no text.
-/

set_option autoImplicit false

namespace Findings.Text

open CodePoint (within_eq_false_iff)

/-! ## One code point -/

theorem toNat_toUInt8 {n : Nat} (small : n < 0x100) : n.toUInt8.toNat = n :=
  Nat.mod_eq_of_lt small

/-- A byte that carries six bits of a value is read as a tail where the range lets it. -/
theorem readTails_cons {first : UInt8} {low high n : Nat} (tails value length : Nat)
    (bytes : List UInt8) (fromLow : low ≤ 0x80 + n % 0x40) (toHigh : 0x80 + n % 0x40 ≤ high) :
    readTails first (tails + 1) low high value length ((0x80 + n % 0x40).toUInt8 :: bytes) =
      readTails first tails 0x80 0xBF (value * 0x40 + n % 0x40) (length + 1) bytes := by
  have isByte : (0x80 + n % 0x40).toUInt8.toNat = 0x80 + n % 0x40 := toNat_toUInt8 (by omega)
  have sixBits : (0x80 + n % 0x40) % 0x40 = n % 0x40 := by omega
  rw [readTails, isByte, sixBits, if_pos ⟨fromLow, toHigh⟩]

theorem readTails_zero {first : UInt8} {low high value length : Nat} {bytes : List UInt8}
    {c : CodePoint} (isValue : value = c.val) :
    readTails first 0 low high value length bytes = (.point c, bytes) := by
  have isPoint : CodePoint.ofNat value = c := by
    unfold CodePoint.ofNat
    rw [dif_pos (isValue ▸ c.isLt)]
    cases c
    cases isValue
    rfl
  rw [readTails, isPoint]

/-- The first of three bytes; the range of the second leaves out short values and surrogates. -/
theorem exists_lead_of_three {value : Nat} (low : 0x800 ≤ value) (high : value < 0x10000)
    (noSurrogate : value < 0xD800 ∨ 0xDFFF < value) :
    ∃ least most, Lead.of? (0xE0 + value / 0x1000) = some ⟨value / 0x1000, least, most, 2⟩ ∧
      least ≤ 0x80 + value / 0x40 % 0x40 ∧ 0x80 + value / 0x40 % 0x40 ≤ most := by
  unfold Lead.of?
  rw [if_neg (by omega), if_neg (by omega), if_neg (by omega)]
  split
  case isTrue isFirst =>
    have noBits : value / 0x1000 = 0 := by omega
    exact ⟨0xA0, 0xBF, by rw [noBits], by omega, by omega⟩
  split
  case isTrue isLast =>
    have isD : value / 0x1000 = 0xD := by omega
    exact ⟨0x80, 0x9F, by rw [isD], by omega, by omega⟩
  case isFalse =>
    rw [if_pos (by omega), Nat.add_sub_cancel_left]
    exact ⟨0x80, 0xBF, rfl, by omega, by omega⟩

/-- The first of four bytes; the range of the second leaves out short values and those that are
none. -/
theorem exists_lead_of_four {value : Nat} (low : 0x10000 ≤ value) (high : value < 0x110000) :
    ∃ least most, Lead.of? (0xF0 + value / 0x40000) = some ⟨value / 0x40000, least, most, 3⟩ ∧
      least ≤ 0x80 + value / 0x1000 % 0x40 ∧ 0x80 + value / 0x1000 % 0x40 ≤ most := by
  unfold Lead.of?
  rw [if_neg (by omega), if_neg (by omega), if_neg (by omega), if_neg (by omega),
    if_neg (by omega), if_neg (by omega)]
  split
  case isTrue isFirst =>
    have noBits : value / 0x40000 = 0 := by omega
    exact ⟨0x90, 0xBF, by rw [noBits], by omega, by omega⟩
  split
  case isTrue isMiddle =>
    rw [Nat.add_sub_cancel_left]
    exact ⟨0x80, 0xBF, rfl, by omega, by omega⟩
  case isFalse =>
    have isFour : value / 0x40000 = 4 := by omega
    rw [if_pos (by omega)]
    exact ⟨0x80, 0x8F, by rw [isFour], by omega, by omega⟩

/-- **One code point.**  Its bytes are a unit, and what follows them is left. -/
theorem readUnit_utf8Bytes {c : CodePoint} (scalar : c.isSurrogate = false) (rest : List UInt8) :
    ∃ first tails, utf8Bytes c = first :: tails ∧
      readUnit first (tails ++ rest) = (.point c, rest) := by
  have bound := c.isLt
  have noSurrogate := within_eq_false_iff.1 scalar
  unfold utf8Bytes
  split
  case isTrue one =>
    refine ⟨_, _, rfl, ?_⟩
    have lead : Lead.of? c.val = some ⟨c.val, 0x80, 0xBF, 0⟩ := by
      unfold Lead.of?
      rw [if_pos one]
    rw [readUnit, toNat_toUInt8 (by omega), lead]
    exact readTails_zero rfl
  split
  case isTrue _ two =>
    refine ⟨_, _, rfl, ?_⟩
    have lead : Lead.of? (0xC0 + c.val / 0x40) = some ⟨c.val / 0x40, 0x80, 0xBF, 1⟩ := by
      unfold Lead.of?
      rw [if_neg (by omega), if_neg (by omega), if_pos (by omega), Nat.add_sub_cancel_left]
    rw [readUnit, toNat_toUInt8 (by omega), lead]
    dsimp only
    rw [List.cons_append, readTails_cons _ _ _ _ (by omega) (by omega)]
    exact readTails_zero (by omega)
  split
  case isTrue _ _ three =>
    refine ⟨_, _, rfl, ?_⟩
    obtain ⟨least, most, lead, fromLeast, toMost⟩ :=
      exists_lead_of_three (by omega) three noSurrogate
    rw [readUnit, toNat_toUInt8 (by omega), lead]
    dsimp only
    rw [List.cons_append, readTails_cons _ _ _ _ fromLeast toMost, List.cons_append,
      readTails_cons _ _ _ _ (by omega) (by omega)]
    exact readTails_zero (by omega)
  case isFalse _ _ four =>
    refine ⟨_, _, rfl, ?_⟩
    obtain ⟨least, most, lead, fromLeast, toMost⟩ := exists_lead_of_four (by omega) bound
    rw [readUnit, toNat_toUInt8 (by omega), lead]
    dsimp only
    rw [List.cons_append, readTails_cons _ _ _ _ fromLeast toMost, List.cons_append,
      readTails_cons _ _ _ _ (by omega) (by omega), List.cons_append,
      readTails_cons _ _ _ _ (by omega) (by omega)]
    exact readTails_zero (by omega)

/-! ## Texts -/

/-- The units of encoded text are its code points. -/
theorem decodeUnitsAfter_utf8Bytes (before : List DecodeUnit) {text : Text}
    (free : text.IsSurrogateFree) :
    decodeUnitsAfter before (text.flatMap utf8Bytes) =
      before.reverse ++ text.map DecodeUnit.point := by
  induction text generalizing before with
  | nil => simp [decodeUnitsAfter]
  | cons c text inductionHypothesis =>
      obtain ⟨first, tails, isBytes, isUnit⟩ :=
        readUnit_utf8Bytes (free c List.mem_cons_self) (text.flatMap utf8Bytes)
      rw [List.flatMap_cons, isBytes, List.cons_append, decodeUnitsAfter, isUnit,
        inductionHypothesis _ fun other member => free other (List.mem_cons_of_mem c member)]
      simp

/-- **Decoding what was encoded.** -/
theorem decodeUtf8Lenient_utf8Bytes {text : Text} (free : text.IsSurrogateFree) :
    decodeUtf8Lenient (text.flatMap utf8Bytes) = text := by
  unfold decodeUtf8Lenient decodeUnits
  rw [decodeUnitsAfter_utf8Bytes [] free, List.reverse_nil, List.nil_append, List.map_map]
  exact List.map_id text

theorem collectUnits_points (before : Text) (offset : Nat) (text : Text) :
    collectUnits before offset (text.map DecodeUnit.point) = .ok (before.reverse ++ text) := by
  induction text generalizing before offset with
  | nil => rw [List.append_nil]; rfl
  | cons c text inductionHypothesis =>
      rw [List.map_cons, collectUnits, inductionHypothesis, List.reverse_cons, List.append_assoc]
      rfl

theorem decodeUtf8_utf8Bytes {text : Text} (free : text.IsSurrogateFree) :
    decodeUtf8 (text.flatMap utf8Bytes) = .ok text := by
  unfold decodeUtf8 decodeUnits
  rw [decodeUnitsAfter_utf8Bytes [] free]
  exact collectUnits_points [] 0 text

theorem spellSurrogates_of_isSurrogateFree {text : Text} (free : text.IsSurrogateFree) :
    spellSurrogates text = text := by
  have areThemselves : ∀ c ∈ text,
      (if c.isSurrogate then ofString "\\u" ++ hexadecimal 4 c.val else [c]) = [c] := by
    intro c member
    rw [free c member, if_neg Bool.false_ne_true]
  unfold spellSurrogates
  rw [List.flatMap_congr areThemselves, List.flatMap_singleton']

end Findings.Text
