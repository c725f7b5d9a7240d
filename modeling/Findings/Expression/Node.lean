import Findings.Text.Basic

/-!
Contract: expressions as trees.

Owns: what an expression consists of, as far as its value or a message about it needs that, and the
name of each kind of expression in messages.
-/

set_option autoImplicit false

namespace Findings.Expression

/-- The values that a literal can have.  Of texts and of numbers with a point only the kind counts. -/
inductive Constant where
  | none
  | truth (value : Bool)
  | ellipsis
  | integer (value : Nat)
  | real
  | imaginary
  | text
  | bytes
deriving DecidableEq, Repr

/-- The kinds of expressions whose parts do not count. -/
inductive Form where
  | attribute
  | subscript
  | operation
  | lambda
  | conditional
  | assignment
  | generator
  | listComprehension
  | setComprehension
  | dictComprehension
  | yielding
  | awaiting
  | formatted
deriving DecidableEq, Repr

/-- An expression, or a part of one that is no expression on its own: a pair of key and value, a
spread dictionary, an argument behind a name, or a sequence of parts. -/
inductive Node where
  | name (text : Text)
  | constant (value : Constant)
  | list (items : List Node)
  | tuple (items : List Node)
  | set (items : List Node)
  | dict (entries : List Node)
  | pair (key value : Node)
  | spread (value : Node)
  | starred (value : Node)
  /-- An operand behind a sign of plus or minus. -/
  | signed (operand : Node)
  /-- A sum or a difference. -/
  | sum (left right : Node)
  /-- A chain of comparisons: its first operand, and whether the first test is for membership. -/
  | comparison (first : Node) (isMembership : Bool)
  | call (function : Node) (arguments : List Node)
  /-- An argument behind a name, or a spread dictionary of arguments. -/
  | keyword (isSpread : Bool)
  | form (form : Form)
  | items (parts : List Node)

namespace Node

/-- The parts of a sequence. -/
def parts : Node → List Node
  | items parts => parts
  | _ => []

/-- Whether a node is an argument behind a name. -/
def isKeyword : Node → Bool
  | keyword _ => true
  | _ => false

end Node

/-! ## Names of kinds -/

def Constant.title : Constant → Text
  | .none => "None"
  | .truth true => "True"
  | .truth false => "False"
  | .ellipsis => "ellipsis"
  | _ => "literal"

def Form.title : Form → Text
  | .attribute => "attribute"
  | .subscript => "subscript"
  | .operation => "expression"
  | .lambda => "lambda"
  | .conditional => "conditional expression"
  | .assignment => "named expression"
  | .generator => "generator expression"
  | .listComprehension => "list comprehension"
  | .setComprehension => "set comprehension"
  | .dictComprehension => "dict comprehension"
  | .yielding => "yield expression"
  | .awaiting => "await expression"
  | .formatted => "f-string expression"

/-- The name of an expression's kind. -/
def Node.title : Node → Text
  | .name _ => "name"
  | .constant value => value.title
  | .list _ => "list"
  | .tuple _ => "tuple"
  | .set _ => "set display"
  | .dict _ => "dict literal"
  | .starred _ => "starred"
  | .comparison _ _ => "comparison"
  | .call _ _ => "function call"
  | .form kind => kind.title
  | _ => "expression"

/-! ## Targets -/

mutual

/-- The part of an expression that cannot be assigned to as the target of a loop. -/
def Node.badTarget? : Node → Option Node
  | .list members => badTargetIn? members
  | .tuple members => badTargetIn? members
  | .starred value => value.badTarget?
  | .comparison first true => first.badTarget?
  | .comparison _ false => none
  | .name _ => none
  | .form .attribute => none
  | .form .subscript => none
  | node => some node

/-- The first part of some expressions that cannot be assigned to. -/
def Node.badTargetIn? : List Node → Option Node
  | [] => none
  | member :: members =>
      match member.badTarget? with
      | some bad => some bad
      | none => badTargetIn? members

end

end Findings.Expression
