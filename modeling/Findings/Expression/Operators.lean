import Findings.Expression.TokenReader

/-!
Contract: the rules for expressions of operators.

Owns: sequences of expressions, conditions, logic, comparisons and arithmetic, from the loosest
operator to the tightest.  `rule` is the reader of every rule.
-/

set_option autoImplicit false

namespace Findings.Expression.Operators

open TokenReader

variable (rule : Rule → TokenReader Node)

/-! ## Sequences -/

/-- An expression, or several with commas between, which make a tuple. -/
def commaTuple (item : TokenReader Node) : TokenReader Node :=
  firstOf [
    do
      let first ← item
      let others ← many1 (do sign ","; item)
      let _ ← optionally (sign ",")
      return .tuple (first :: others),
    do
      let only ← item
      sign ","
      return .tuple [only],
    item]

/-- Items with commas between, and perhaps one behind. -/
def commaList (item : TokenReader Node) : TokenReader Node := do
  let items ← commaSeparated item
  let _ ← optionally (sign ",")
  return .items items

/-- An item behind a star, or another one. -/
def starredOr (other : Rule) : TokenReader Node :=
  firstOf [
    do
      sign "*"
      return .starred (← rule .bitOr),
    rule other]

/-- A whole text. -/
def text : TokenReader Node := do
  let node ← rule .expressions
  let _ ← many (accept (· = .lineEnd))
  let _ ← accept (· = .finish)
  return node

/-- A conditional expression. -/
def conditional : TokenReader Node := do
  let _ ← rule .disjunction
  word "if"
  let _ ← rule .disjunction
  word "else"
  let _ ← rule .expression
  return .form .conditional

/-- One expression under any operators. -/
def expression : TokenReader Node :=
  firstOf [whenStrict (rule .misusedExpression), whenStrict (rule .misusedCommand),
    conditional rule, rule .disjunction, rule .lambda]

/-- One expression, in which mistakes do not count. -/
def plainExpression : TokenReader Node :=
  leniently (firstOf [conditional rule, rule .disjunction, rule .lambda])

def yielding : TokenReader Node :=
  firstOf [
    do
      word "yield"
      word "from"
      let _ ← rule .expression
      return .form .yielding,
    do
      word "yield"
      let _ ← optionally (rule .starredExpressions)
      return .form .yielding]

/-- A name that an expression is assigned to on the way. -/
def assignment : TokenReader Node := do
  let _ ← name
  sign ":="
  let _ ← rule .expression
  return .form .assignment

/-- An expression that no assignment follows. -/
def unassigned : TokenReader Node := do
  let node ← rule .expression
  notAhead (sign ":=")
  return node

def namedExpression : TokenReader Node :=
  firstOf [rule .assignment, whenStrict (rule .misusedName), unassigned rule]

/-! ## Logic and comparisons -/

/-- Operands with a word between, or a single one. -/
def joinedBy (operator : String) (operand : Rule) : TokenReader Node :=
  firstOf [
    do
      let _ ← rule operand
      let _ ← many1 (do word operator; rule operand)
      return .form .operation,
    rule operand]

def inversion : TokenReader Node :=
  firstOf [
    do
      word "not"
      let _ ← rule .inversion
      return .form .operation,
    rule .comparison]

/-- The operators of comparisons, and which of them test for membership. -/
def tests : List (TokenReader Bool) :=
  (["==", "!=", "<=", "<", ">=", ">"].map fun operator => do
      sign operator
      return false)
    ++ [do word "not"; word "in"; return false,
      do word "in"; return true,
      do word "is"; word "not"; return false,
      do word "is"; return false]

def comparison : TokenReader Node :=
  firstOf [
    do
      let first ← rule .bitOr
      let found ← many1 (firstOf (tests.map fun test => do
        let isMembership ← test
        let _ ← rule .bitOr
        return isMembership))
      return .comparison first (found.head? = some true),
    rule .bitOr]

/-! ## Arithmetic -/

/-- A rule that begins with itself: operands with one of some operators between. -/
def leftToRight (own operand : Rule) (operators : List String) : TokenReader Node :=
  firstOf (operators.map (fun operator => do
      let left ← rule own
      sign operator
      let right ← rule operand
      return if own = .sum then .sum left right else .form .operation)
    ++ [rule operand])

def factor : TokenReader Node :=
  firstOf [
    do
      sign "+"
      return .signed (← rule .factor),
    do
      sign "-"
      return .signed (← rule .factor),
    do
      sign "~"
      let _ ← rule .factor
      return .form .operation,
    rule .power]

def power : TokenReader Node :=
  firstOf [
    do
      let _ ← rule .awaited
      sign "**"
      let _ ← rule .factor
      return .form .operation,
    rule .awaited]

def awaited : TokenReader Node :=
  firstOf [
    do
      word "await"
      let _ ← rule .primary
      return .form .awaiting,
    rule .primary]

end Findings.Expression.Operators
