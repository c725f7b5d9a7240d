import Findings.Json.Access

/-!
Contract: values as keys of a table, and their order.

Owns:
- which values are the same key: texts by their characters, numbers and truth values by the number
  they stand for;
- the order of texts and of numbers, which other values do not have;
- sorting by that order, which is reported as impossible at the first two values that have none.
-/

set_option autoImplicit false

namespace Findings

namespace Binary64

/-- A finite value in units of a power of two that is not above its own exponent. -/
def unitsOver (negative : Bool) (mantissa : Nat) (exponent base : Int) : Int :=
  let units : Int := (mantissa * Nat.pow 2 (exponent - base).toNat : Nat)
  if negative then -units else units

/-- Whether a value is less than another one.  What is not a number is neither less nor greater. -/
def less : Binary64 → Binary64 → Bool
  | .notANumber, _ | _, .notANumber => false
  | .infinite left, .infinite right => left && !right
  | .infinite left, .finite .. => left
  | .finite .., .infinite right => !right
  | .finite left m i, .finite right n j =>
      decide (unitsOver left m i (min i j) < unitsOver right n j (min i j))

end Binary64

namespace Json

/-- The number that a value stands for; of the truth values, `true` is one and `false` zero. -/
def number? : Json → Option Binary64
  | .bool value => some (.finite false (if value then 1 else 0) 0)
  | .int value => some (.finite (value < 0) value.natAbs 0)
  | .real value => some value
  | _ => none

/-- Whether two values are the same key. -/
def sameKey (left right : Json) : Bool :=
  match left.number?, right.number? with
  | some a, some b => a = b || (a ≠ .notANumber && b ≠ .notANumber && !a.less b && !b.less a)
  | none, none =>
      match left.text?, right.text? with
      | some a, some b => a = b
      | _, _ => left.kind = right.kind
  | _, _ => false

/-- The values of a list that are different keys, each at its first place. -/
def distinctKeys (values : List Json) : List Json :=
  (values.foldl (fun keys value =>
    if keys.any (sameKey value) then keys else value :: keys) []).reverse

/-- Whether a value comes before another one. -/
def less (left right : Json) : Except AccessFault Bool :=
  match left.number?, right.number? with
  | some a, some b => .ok (a.less b)
  | _, _ =>
      match left.text?, right.text? with
      | some a, some b => .ok (!Text.ble b a)
      | _, _ => .error (.notOrdered left.kind right.kind)

/-! ## Sorting -/

/-- The longest beginning of a list in which every value comes before the one in front of it, or in
which none does, without the first value; and the values behind it. -/
def runAfter (descending : Bool) (last : Json) :
    List Json → Except AccessFault (List Json × List Json)
  | [] => .ok ([], [])
  | value :: rest => do
      if (← less value last) = descending then
        let (run, rest) ← runAfter descending value rest
        return (value :: run, rest)
      else return ([], value :: rest)

/-- The sorted beginning of a list, and the values behind it. -/
def firstRun : List Json → Except AccessFault (List Json × List Json)
  | [] => .ok ([], [])
  | [value] => .ok ([value], [])
  | first :: second :: rest => do
      let descending ← less second first
      let (run, rest) ← runAfter descending second rest
      let run := first :: second :: run
      return (if descending then run.reverse else run, rest)

/-- The place of a value among sorted ones, between two places, found by halving. -/
def placeOf (value : Json) (sorted : Array Json) (low high : Nat) : Except AccessFault Nat :=
  if _inside : low < high then
    match less value (sorted.getD ((low + high) / 2) .null) with
    | .error fault => .error fault
    | .ok true => placeOf value sorted low ((low + high) / 2)
    | .ok false => placeOf value sorted ((low + high) / 2 + 1) high
  else .ok low
termination_by high - low
decreasing_by all_goals omega

/-- Put a value in its place among sorted ones. -/
def insertSorted (sorted : List Json) (value : Json) : Except AccessFault (List Json) := do
  let place ← placeOf value sorted.toArray 0 sorted.length
  return sorted.take place ++ value :: sorted.drop place

/-- Sort values: the sorted beginning first, then the others one after the other. -/
def sort (values : List Json) : Except AccessFault (List Json) := do
  let (run, rest) ← firstRun values
  rest.foldlM insertSorted run

end Json

end Findings
