/-!
Contract: the MD5 digest of a byte sequence.

Owns: padding, the sixty-four steps on a block, and the digest as sixteen bytes.  It identifies
content and protects nothing.
-/

set_option autoImplicit false

namespace Findings.Md5

/-- The four words that a block transforms. -/
structure Chain where
  a : UInt32
  b : UInt32
  c : UInt32
  d : UInt32
deriving DecidableEq

/-- The words before the first block. -/
def start : Chain := ⟨0x67452301, 0xEFCDAB89, 0x98BADCFE, 0x10325476⟩

/-- The additive constants of the sixty-four steps. -/
def constants : List UInt32 :=
  [0xD76AA478, 0xE8C7B756, 0x242070DB, 0xC1BDCEEE, 0xF57C0FAF, 0x4787C62A, 0xA8304613, 0xFD469501,
    0x698098D8, 0x8B44F7AF, 0xFFFF5BB1, 0x895CD7BE, 0x6B901122, 0xFD987193, 0xA679438E, 0x49B40821,
    0xF61E2562, 0xC040B340, 0x265E5A51, 0xE9B6C7AA, 0xD62F105D, 0x02441453, 0xD8A1E681, 0xE7D3FBC8,
    0x21E1CDE6, 0xC33707D6, 0xF4D50D87, 0x455A14ED, 0xA9E3E905, 0xFCEFA3F8, 0x676F02D9, 0x8D2A4C8A,
    0xFFFA3942, 0x8771F681, 0x6D9D6122, 0xFDE5380C, 0xA4BEEA44, 0x4BDECFA9, 0xF6BB4B60, 0xBEBFBC70,
    0x289B7EC6, 0xEAA127FA, 0xD4EF3085, 0x04881D05, 0xD9D4D039, 0xE6DB99E5, 0x1FA27CF8, 0xC4AC5665,
    0xF4292244, 0x432AFF97, 0xAB9423A7, 0xFC93A039, 0x655B59C3, 0x8F0CCC92, 0xFFEFF47D, 0x85845DD1,
    0x6FA87E4F, 0xFE2CE6E0, 0xA3014314, 0x4E0811A1, 0xF7537E82, 0xBD3AF235, 0x2AD7D2BB, 0xEB86D391]

/-- How far each step rotates. -/
def rotations : List UInt32 :=
  let cycle (amounts : List UInt32) := amounts ++ amounts ++ amounts ++ amounts
  cycle [7, 12, 17, 22] ++ cycle [5, 9, 14, 20] ++ cycle [4, 11, 16, 23] ++ cycle [6, 10, 15, 21]

/-- Rotate a word to the left; the amounts in use lie between one and thirty-one. -/
def rotateLeft (word amount : UInt32) : UInt32 :=
  (word <<< amount) ||| (word >>> (32 - amount))

/-- The mixing function of a step. -/
def mix (step : Nat) (chain : Chain) : UInt32 :=
  if step < 16 then (chain.b &&& chain.c) ||| (~~~chain.b &&& chain.d)
  else if step < 32 then (chain.d &&& chain.b) ||| (~~~chain.d &&& chain.c)
  else if step < 48 then chain.b ^^^ chain.c ^^^ chain.d
  else chain.c ^^^ (chain.b ||| ~~~chain.d)

/-- The word of the block that a step reads. -/
def wordIndex (step : Nat) : Nat :=
  if step < 16 then step
  else if step < 32 then (5 * step + 1) % 16
  else if step < 48 then (3 * step + 5) % 16
  else 7 * step % 16

/-- One step with its constant and its rotation. -/
def step (words : Array UInt32) (chain : Chain) (index : Nat) (parameters : UInt32 × UInt32) :
    Chain :=
  let sum := chain.a + mix index chain + parameters.1 + words.getD (wordIndex index) 0
  ⟨chain.d, chain.b + rotateLeft sum parameters.2, chain.b, chain.c⟩

/-- The steps from `index` on. -/
def steps (words : Array UInt32) : Nat → Chain → List (UInt32 × UInt32) → Chain
  | _, chain, [] => chain
  | index, chain, parameters :: rest =>
      steps words (index + 1) (step words chain index parameters) rest

/-- Transform the chain by one block of sixteen words. -/
def block (chain : Chain) (words : Array UInt32) : Chain :=
  let after := steps words 0 chain (constants.zip rotations)
  ⟨chain.a + after.a, chain.b + after.b, chain.c + after.c, chain.d + after.d⟩

/-- The least significant byte first. -/
def littleEndian : (count : Nat) → Nat → List UInt8
  | 0, _ => []
  | count + 1, n => n.toUInt8 :: littleEndian count (n / 0x100)

/-- A message with its padding: one bit, zeros, and its length in bits. -/
def padded (message : List UInt8) : List UInt8 :=
  let zeros := (119 - message.length % 64) % 64
  message ++ 0x80 :: (List.replicate zeros 0 ++ littleEndian 8 (8 * message.length))

/-- Group bytes into words; bytes that do not fill a word are left out. -/
def wordsOf : List UInt8 → List UInt32
  | a :: b :: c :: d :: rest =>
      (a.toUInt32 ||| (b.toUInt32 <<< 8) ||| (c.toUInt32 <<< 16) ||| (d.toUInt32 <<< 24))
        :: wordsOf rest
  | _ => []

/-- Transform the chain by `count` blocks. -/
def blocks : (count : Nat) → Chain → List UInt32 → Chain
  | 0, chain, _ => chain
  | count + 1, chain, words =>
      blocks count (block chain (words.take 16).toArray) (words.drop 16)

/-- The digest of a message. -/
def digest (message : List UInt8) : List UInt8 :=
  let words := wordsOf (padded message)
  let chain := blocks (words.length / 16) start words
  [chain.a, chain.b, chain.c, chain.d].flatMap fun word => littleEndian 4 word.toNat

end Findings.Md5
