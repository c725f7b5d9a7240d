import Findings.Expression.Operators
import Findings.Expression.Strings

/-!
Contract: the rules for the parts that operators join.

Owns: names, constants, strings, brackets of every kind with comprehensions in them, calls and
subscripts.  `rule` is the reader of every rule, and `field` reads the expression in a field of a
formatted string.
-/

set_option autoImplicit false

namespace Findings.Expression.Atoms

open TokenReader

variable (rule : Rule → TokenReader Node)

/-! ## Constants -/

/-- The constant of a numeral, or the number of its digits if there are too many. -/
def constantOf (numeral : Text) : Except Nat Constant :=
  let digits := (numeral.filter (· ≠ CodePoint.ofChar '_')).map CodePoint.toLower
  if digits.getLast? = some (CodePoint.ofChar 'j') ∧ !digits.contains (CodePoint.ofChar 'x') then
    .ok .imaginary
  else if digits.all CodePoint.isDigit then
    if digits.head? ≠ some (CodePoint.ofChar '0') ∧ Numeral.maxDigits < digits.length then
      .error digits.length
    else .ok (.integer (Text.natValue digits))
  else
    let inBase (base : Nat) : Constant :=
      .integer ((digits.drop 2).foldl (fun value c => value * base + c.hexValue?.getD 0) 0)
    match (digits.drop 1).head?.bind announced? with
    | some .hexadecimal => .ok (inBase 16)
    | some .octal => .ok (inBase 8)
    | some .binary => .ok (inBase 2)
    | _ => .ok .real

def numeral : TokenReader Node := do
  match constantOf (← number) with
  | .ok value => return .constant value
  | .error digits => raise (.excessiveNumeral digits)

/-- Adjacent strings. -/
def strings (field : Text → Except Stop Node) : TokenReader Node := do
  let inField := (← read).inField
  let reader : FieldReader := {
    read := field
    raise := fun fault =>
      .fault (if inField then .formatted (.string fault) else .string fault) }
  match readStrings reader (← many1 string) with
  | .ok node => return node
  | .error stop => throwThe Stop stop

/-! ## Atoms -/

/-- A constant that is a word. -/
def wordConstant (text : String) (value : Constant) : TokenReader Node := do
  word text
  return .constant value

def atom : TokenReader Node :=
  firstOf [
    name,
    wordConstant "True" (.truth true),
    wordConstant "False" (.truth false),
    wordConstant "None" .none,
    do
      ahead string
      rule .strings,
    numeral,
    do
      ahead (sign "(")
      firstOf [rule .tuple, rule .group, rule .generator],
    do
      ahead (sign "[")
      firstOf [rule .list, rule .listComprehension],
    do
      ahead (sign "\x7b")
      firstOf [rule .dict, rule .set, rule .dictComprehension, rule .setComprehension],
    do
      sign "..."
      return .constant .ellipsis]

def group : TokenReader Node :=
  firstOf [
    do
      sign "("
      let node ← firstOf [rule .yielding, rule .namedExpression]
      sign ")"
      return node,
    whenStrict (rule .misusedGroup)]

def list : TokenReader Node := do
  sign "["
  let items ← optionally (rule .starredNamedExpressions)
  sign "]"
  return .list ((items.map Node.parts).getD [])

def tuple : TokenReader Node := do
  sign "("
  let items ← optionally do
    let first ← rule .starredNamedExpression
    sign ","
    let others ← optionally (rule .starredNamedExpressions)
    return first :: (others.map Node.parts).getD []
  sign ")"
  return .tuple (items.getD [])

def set : TokenReader Node := do
  sign "\x7b"
  let items ← rule .starredNamedExpressions
  sign "\x7d"
  return .set items.parts

/-! ## Dictionaries -/

def dict : TokenReader Node :=
  firstOf [
    do
      sign "\x7b"
      let entries ← optionally (rule .pairs)
      sign "\x7d"
      return .dict ((entries.map Node.parts).getD []),
    whenStrict do
      sign "\x7b"
      let _ ← rule .misusedPairs
      sign "\x7d"
      return .dict []]

def spreadOrPair : TokenReader Node :=
  firstOf [
    do
      sign "**"
      return .spread (← rule .bitOr),
    rule .pair]

def pair : TokenReader Node := do
  let key ← rule .expression
  sign ":"
  return .pair key (← rule .expression)

/-! ## Comprehensions -/

def loops : TokenReader Node := return .items (← many1 (rule .loop))

/-- A loop of a comprehension.  Behind the word `in` there is no way back. -/
def loop : TokenReader Node := do
  let entered ← optionally do
    let _ ← optionally (word "async")
    word "for"
    let _ ← rule .targets
    word "in"
  match entered with
  | none => whenStrict (rule .misusedTarget)
  | some _ =>
      let _ ← rule .disjunction
      let _ ← many (do word "if"; rule .disjunction)
      return .items []

/-- An expression with loops behind it, in brackets. -/
def comprehension (opening closing : String) (item : TokenReader Node) (form : Form)
    (mistaken : Rule) : TokenReader Node :=
  firstOf [
    do
      sign opening
      let _ ← item
      let _ ← rule .loops
      sign closing
      return .form form,
    whenStrict (rule mistaken)]

/-- What a generator yields. -/
def generated : TokenReader Node := firstOf [rule .assignment, Operators.unassigned rule]

/-! ## Calls and subscripts -/

def primary : TokenReader Node :=
  firstOf [
    do
      let _ ← rule .primary
      sign "."
      let _ ← name
      return .form .attribute,
    do
      let function ← rule .primary
      return .call function [← rule .generator],
    do
      let function ← rule .primary
      sign "("
      let arguments ← optionally (rule .arguments)
      sign ")"
      return .call function ((arguments.map Node.parts).getD []),
    do
      let _ ← rule .primary
      sign "["
      let _ ← rule .slices
      sign "]"
      return .form .subscript,
    rule .atom]

def slices : TokenReader Node :=
  firstOf [
    do
      let node ← rule .slice
      notAhead (sign ",")
      return node,
    do
      let items ← commaSeparated (firstOf [rule .slice, rule .unpackedArgument])
      let _ ← optionally (sign ",")
      return .tuple items]

def slice : TokenReader Node :=
  firstOf [
    do
      let _ ← optionally (rule .expression)
      sign ":"
      let _ ← optionally (rule .expression)
      let _ ← optionally (do sign ":"; optionally (rule .expression))
      return .items [],
    rule .namedExpression]

end Findings.Expression.Atoms
