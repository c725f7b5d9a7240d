import Findings.Expression.Grammar
import Findings.Text.Utf8

/-!
Contract: expressions that are literals.

Owns: which expressions denote a value on their own, and why the others do not.

A literal is a constant, a signed number, the sum or difference of a real and an imaginary number, or
a tuple, list, set or dictionary of literals.  Members of sets and keys of dictionaries cannot be
lists, sets or dictionaries themselves.
-/

set_option autoImplicit false

namespace Findings.Expression

/-- Why an expression is no literal. -/
inductive LiteralFault where
  | noLiteral
  /-- A spread dictionary stands in place of a key. -/
  | noKey
  /-- A value of some kind can be no key and no member of a set. -/
  | unhashable (kind : Text)
  | tooLarge
deriving DecidableEq

def LiteralFault.message : LiteralFault → Text
  | .noLiteral => "malformed node or string"
  | .noKey => "malformed node or string: None"
  | .unhashable kind => Text.ofString "unhashable type: '" ++ kind ++ Text.ofString "'"
  | .tooLarge => "int too large to convert to float"

namespace Node

/-- The least integer that is beyond all numbers with a point. -/
def tooLargeFrom : Nat := Nat.pow 2 1024 - Nat.pow 2 970

/-- The number that an expression denotes. -/
def number? : Node → Option Constant
  | constant (.integer value) => some (.integer value)
  | constant .real => some .real
  | constant .imaginary => some .imaginary
  | _ => Option.none

/-- The number that an expression with or without a sign denotes. -/
def signedNumber? : Node → Option Constant
  | signed operand => operand.number?
  | node => node.number?

/-- The fault of the sum of two expressions. -/
def sumFault? (left right : Node) : Option LiteralFault :=
  match left.signedNumber?, right.number? with
  | some (.integer value), some .imaginary =>
      if tooLargeFrom ≤ value then some .tooLarge else Option.none
  | some .real, some .imaginary => Option.none
  | _, _ => some .noLiteral

/-- Whether an expression calls `set` without arguments, which denotes the empty set. -/
def isEmptySet : Node → Bool
  | call (name function) [] => function = Text.ofString "set"
  | _ => false

mutual

/-- The kind of a literal that can be no key; a tuple can be none if one of its members cannot. -/
def unhashable? : Node → Option Text
  | list _ => some "list"
  | set _ => some "set"
  | dict _ => some "dict"
  | call _ _ => some "set"
  | tuple members => unhashableIn? members
  | _ => Option.none

/-- The kind of the first of some literals that can be no key. -/
def unhashableIn? : List Node → Option Text
  | [] => Option.none
  | member :: members =>
      match member.unhashable? with
      | some kind => some kind
      | Option.none => unhashableIn? members

end

mutual

/-- Why an expression is no literal. -/
def literalFault? : Node → Option LiteralFault
  | constant _ => Option.none
  | tuple members => faultIn? members
  | list members => faultIn? members
  | set members => memberFault? members
  | dict entries => entryFault? entries
  | sum left right => sumFault? left right
  | node =>
      if node.isEmptySet || node.signedNumber?.isSome then Option.none else some .noLiteral

/-- The fault of the first of some expressions that is no literal. -/
def faultIn? : List Node → Option LiteralFault
  | [] => Option.none
  | member :: members =>
      match member.literalFault? with
      | some fault => some fault
      | Option.none => faultIn? members

/-- The fault of the first of some expressions that is no member of a set. -/
def memberFault? : List Node → Option LiteralFault
  | [] => Option.none
  | member :: members =>
      match member.literalFault? with
      | some fault => some fault
      | Option.none =>
          match member.unhashable? with
          | some kind => some (.unhashable kind)
          | Option.none => memberFault? members

/-- The fault of the first entry of a dictionary that has one.  Key and value are literals before the
key is found to be none. -/
def entryFault? : List Node → Option LiteralFault
  | [] => Option.none
  | pair key value :: entries =>
      match key.literalFault? with
      | some fault => some fault
      | Option.none =>
          match value.literalFault? with
          | some fault => some fault
          | Option.none =>
              match key.unhashable? with
              | some kind => some (.unhashable kind)
              | Option.none => entryFault? entries
  | _ :: _ => some .noKey

end

end Node

/-- Why a text is no literal. -/
inductive EvaluationFault where
  | syntaxFault (fault : SyntaxFault)
  | literal (fault : LiteralFault)
  | unencodable (fault : Text.EncodeFault)
  /-- Parts are nested too deep. -/
  | tooDeep

/-- Check that a text is a literal. -/
def checkLiteral (text : Text) : Except EvaluationFault Unit :=
  match Text.surrogateRun? text with
  | some fault => .error (.unencodable fault)
  | none =>
      match read text with
      | .error (.fault fault) => .error (.syntaxFault fault)
      | .error _ => .error .tooDeep
      | .ok node =>
          match node.literalFault? with
          | some fault => .error (.literal fault)
          | none => .ok ()

end Findings.Expression
