/-!
Contract: binary floating point numbers of 64 bits, as the numbers with a fraction or exponent in a
report are kept.

Owns:
- the type `Binary64` of values: not a number, an infinity, or a sign with `mantissa * 2 ^ exponent`;
- `Binary64.ofDecimal`, the value nearest to a decimal number, a tie going to the even mantissa.

Does not own: how a value is written (`Findings.Number.Shortest`).  Nothing here computes with
machine floats; everything is exact arithmetic on natural numbers.
-/

set_option autoImplicit false

namespace Findings

/-- A value of the 64 bit format.  In a finite value made by `ofDecimal` the mantissa is below
`2 ^ 53`, the exponent is at least `-1074`, and at `2 ^ 52` at least unless the exponent is
`-1074`. -/
inductive Binary64
  | notANumber
  | infinite (negative : Bool)
  | finite (negative : Bool) (mantissa : Nat) (exponent : Int)
  deriving DecidableEq, Repr

namespace Binary64

/-- The quotient rounded to the nearest natural number, a tie going to the even one. -/
def divRoundEven (num den : Nat) : Nat :=
  let quotient := num / den
  let twice := 2 * (num % den)
  if twice < den then quotient
  else if den < twice then quotient + 1
  else if quotient % 2 = 0 then quotient else quotient + 1

/-- The least exponent. -/
def minExponent : Int := -1074

/-- The greatest exponent of a full mantissa. -/
def maxExponent : Int := 971

/-- The quotient `num / den` measured in units of `2 ^ exponent`, rounded. -/
def unitsOf (num den : Nat) (exponent : Int) : Nat :=
  divRoundEven (num * Nat.pow 2 (-exponent).toNat) (den * Nat.pow 2 exponent.toNat)

/-- The exponent at which the quotient `num / den` has 53 binary digits, or the least one when it is
smaller than that. -/
def exponentFor (num den : Nat) : Int :=
  let guess : Int := (num.log2 : Int) - (den.log2 : Int) - 53
  let scaledNum := num * Nat.pow 2 (-guess).toNat
  let scaledDen := den * Nat.pow 2 guess.toNat
  max minExponent (if scaledNum / scaledDen < Nat.pow 2 53 then guess else guess + 1)

/-- The value nearest to the positive quotient `num / den`. -/
def ofQuotient (negative : Bool) (num den : Nat) : Binary64 :=
  let exponent := exponentFor num den
  let mantissa := unitsOf num den exponent
  if mantissa = Nat.pow 2 53 then
    if maxExponent ≤ exponent then .infinite negative
    else .finite negative (Nat.pow 2 52) (exponent + 1)
  else if maxExponent < exponent then .infinite negative
  else .finite negative mantissa exponent

/-- How many decimal digits a number has; zero has none. -/
def decimalSize (n : Nat) : Nat :=
  if n = 0 then 0 else 1 + decimalSize (n / 10)
termination_by n

/-- The value nearest to `digits * 10 ^ exponent`.  Numbers of a magnitude that the format cannot
come near are settled without computing the power. -/
def ofDecimal (negative : Bool) (digits : Nat) (exponent : Int) : Binary64 :=
  if digits = 0 then .finite negative 0 minExponent
  else
    let magnitude : Int := decimalSize digits + exponent
    if 400 < magnitude then .infinite negative
    else if magnitude < -400 then .finite negative 0 minExponent
    else
      ofQuotient negative (digits * Nat.pow 10 exponent.toNat) (Nat.pow 10 (-exponent).toNat)

/-- Whether a value is one of the two zeros. -/
def isZero : Binary64 → Bool
  | .finite _ mantissa _ => mantissa = 0
  | _ => false

end Binary64

end Findings
