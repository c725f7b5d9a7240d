import Findings.Number.Binary64
import Findings.Text.Basic

/-!
Contract: the shortest decimal numeral that reads back as a given value.

Owns:
- the test whether a decimal number rounds to a value (`readsBack`), stated on the interval of reals
  that round to it;
- the choice of digits: the fewest that read back, of two candidates the nearer one;
- the layout: positional from four zeros after the point up to sixteen digits before it, else with a
  signed exponent of at least two digits.
-/

set_option autoImplicit false

namespace Findings.Binary64

/-- The decimal number `digits * 10 ^ exponent`. -/
structure Decimal where
  digits : Nat
  exponent : Int
  deriving DecidableEq, Repr

/-- The order of `a * 10 ^ i` and `b * 2 ^ j`. -/
def compareScaled (a : Nat) (i : Int) (b : Nat) (j : Int) : Ordering :=
  compare (a * Nat.pow 10 i.toNat * Nat.pow 2 (-j).toNat)
    (b * Nat.pow 2 j.toNat * Nat.pow 10 (-i).toNat)

/-- Whether a decimal number rounds to `mantissa * 2 ^ exponent`.  The ends of the interval count
when the mantissa is even; below a power of two the gap is half as wide. -/
def readsBack (mantissa : Nat) (exponent : Int) (candidate : Decimal) : Bool :=
  let narrow := mantissa = Nat.pow 2 52 ∧ minExponent < exponent
  let low := if narrow then 4 * mantissa - 1 else 4 * mantissa - 2
  let high := 4 * mantissa + 2
  let endsCount := mantissa % 2 = 0
  let belowCandidate := compareScaled candidate.digits candidate.exponent low (exponent - 2)
  let aboveCandidate := compareScaled candidate.digits candidate.exponent high (exponent - 2)
  (belowCandidate = .gt ∨ (endsCount ∧ belowCandidate = .eq)) ∧
    (aboveCandidate = .lt ∨ (endsCount ∧ aboveCandidate = .eq))

/-- The greatest `k` with `10 ^ k ≤ mantissa * 2 ^ exponent`, searched downwards from `start`. -/
def decimalMagnitude (mantissa : Nat) (exponent : Int) : (steps : Nat) → (start : Int) → Int
  | 0, start => start
  | steps + 1, start =>
      if compareScaled 1 start mantissa exponent = .gt then
        decimalMagnitude mantissa exponent steps (start - 1)
      else start

/-- The number of whole units of `10 ^ grid` in `mantissa * 2 ^ exponent`. -/
def unitsBelow (mantissa : Nat) (exponent grid : Int) : Nat :=
  mantissa * Nat.pow 2 exponent.toNat * Nat.pow 10 (-grid).toNat /
    (Nat.pow 2 (-exponent).toNat * Nat.pow 10 grid.toNat)

/-- Of two neighbouring grid points the nearer one to the value; a tie goes to the even one. -/
def nearer (mantissa : Nat) (exponent : Int) (units : Nat) (grid : Int) : Decimal :=
  match compareScaled (2 * units + 1) grid (2 * mantissa) exponent with
  | .lt => ⟨units + 1, grid⟩
  | .gt => ⟨units, grid⟩
  | .eq => if units % 2 = 0 then ⟨units, grid⟩ else ⟨units + 1, grid⟩

/-- The best grid point that reads back, when there is one. -/
def onGrid? (mantissa : Nat) (exponent grid : Int) : Option Decimal :=
  let units := unitsBelow mantissa exponent grid
  match readsBack mantissa exponent ⟨units, grid⟩, readsBack mantissa exponent ⟨units + 1, grid⟩ with
  | true, true => some (nearer mantissa exponent units grid)
  | true, false => some ⟨units, grid⟩
  | false, true => some ⟨units + 1, grid⟩
  | false, false => none

/-- Search finer and finer grids; the finest one, which has seventeen digits, always has a point
that reads back. -/
def searchGrids (mantissa : Nat) (exponent : Int) : (finer : Nat) → (grid : Int) → Decimal
  | 0, grid => nearer mantissa exponent (unitsBelow mantissa exponent grid) grid
  | finer + 1, grid =>
      match onGrid? mantissa exponent grid with
      | some found => found
      | none => searchGrids mantissa exponent finer (grid - 1)

/-- The shortest decimal number that rounds to a positive value.  The search begins at the power of
ten above the value, so that a result never ends in a zero digit. -/
def shortest (mantissa : Nat) (exponent : Int) : Decimal :=
  searchGrids mantissa exponent 17 (decimalMagnitude mantissa exponent 700 310 + 1)

/-- The numeral of `digits * 10 ^ exponent` in positional or exponent notation, with a fraction of
at least one digit in the former. -/
def layout (number : Decimal) : Text :=
  let digits := Text.ofNat number.digits
  let point : Int := digits.length + number.exponent
  if -4 < point ∧ point ≤ 16 then
    if point ≤ 0 then
      Text.ofString "0." ++ Text.replicate (-point).toNat '0' ++ digits
    else if (digits.length : Int) ≤ point then
      digits ++ Text.replicate (point - digits.length).toNat '0' ++ Text.ofString ".0"
    else digits.take point.toNat ++ Text.ofString "." ++ digits.drop point.toNat
  else
    let power := point - 1
    let size := Text.ofNat power.natAbs
    digits.take 1
      ++ (if digits.length = 1 then [] else CodePoint.ofChar '.' :: digits.drop 1)
      ++ Text.ofString (if power < 0 then "e-" else "e+")
      ++ (if size.length < 2 then CodePoint.ofChar '0' :: size else size)

/-- The numeral of a finite value. -/
def finiteText (negative : Bool) (mantissa : Nat) (exponent : Int) : Text :=
  (if negative then Text.ofString "-" else []) ++
    (if mantissa = 0 then Text.ofString "0.0" else layout (shortest mantissa exponent))

end Findings.Binary64
