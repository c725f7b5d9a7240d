import Findings.Expression.Operators

/-!
Contract: the rules for the arguments of a call, for the parameters of a function without a name,
and for the targets of loops.

`rule` is the reader of every rule.
-/

set_option autoImplicit false

namespace Findings.Expression.Arguments

open TokenReader

variable (rule : Rule → TokenReader Node)

/-! ## Arguments -/

def arguments : TokenReader Node :=
  firstOf [
    do
      let node ← rule .argumentList
      let _ ← optionally (sign ",")
      ahead (sign ")")
      return node,
    whenStrict (rule .misusedArguments)]

/-- An argument that is no keyword. -/
def positional : TokenReader Node :=
  firstOf [
    rule .unpackedArgument,
    do
      let node ← firstOf [rule .assignment, Operators.unassigned rule]
      notAhead (sign "=")
      return node]

def argumentList : TokenReader Node :=
  firstOf [
    do
      let first ← commaSeparated (positional rule)
      let keywords ← optionally (do sign ","; rule .keywordArguments)
      return .items (first ++ (keywords.map Node.parts).getD []),
    rule .keywordArguments]

def keywordArguments : TokenReader Node :=
  firstOf [
    do
      let first ← commaSeparated (rule .keywordOrUnpacked)
      sign ","
      let second ← commaSeparated (rule .keywordOrSpread)
      return .items (first ++ second),
    return .items (← commaSeparated (rule .keywordOrUnpacked)),
    return .items (← commaSeparated (rule .keywordOrSpread))]

def unpackedArgument : TokenReader Node :=
  firstOf [
    do
      sign "*"
      return .starred (← rule .expression),
    do
      sign "*"
      raise (.misuse .bareStar)]

/-- An argument behind a name. -/
def keyword : TokenReader Node := do
  let _ ← name
  sign "="
  let _ ← rule .expression
  return .keyword false

def keywordOrUnpacked : TokenReader Node :=
  firstOf [whenStrict (rule .misusedKeyword), keyword rule, rule .unpackedArgument]

def keywordOrSpread : TokenReader Node :=
  firstOf [
    whenStrict (rule .misusedKeyword),
    keyword rule,
    do
      sign "**"
      let _ ← rule .expression
      return .keyword true]

/-! ## Parameters -/

def lambda : TokenReader Node := do
  word "lambda"
  let _ ← optionally (rule .parameters)
  sign ":"
  let _ ← rule .expression
  return .form .lambda

def parameters : TokenReader Node :=
  firstOf [whenStrict (rule .misusedParameters), rule .parameterList]

def parameterList : TokenReader Node :=
  firstOf [
    do
      let _ ← rule .slashedPlainParameters
      let _ ← many (rule .plainParameter)
      let _ ← many (rule .defaultParameter)
      let _ ← optionally (rule .starParameters)
      return .items [],
    do
      let _ ← rule .slashedParameters
      let _ ← many (rule .defaultParameter)
      let _ ← optionally (rule .starParameters)
      return .items [],
    do
      let _ ← many1 (rule .plainParameter)
      let _ ← many (rule .defaultParameter)
      let _ ← optionally (rule .starParameters)
      return .items [],
    do
      let _ ← many1 (rule .defaultParameter)
      let _ ← optionally (rule .starParameters)
      return .items [],
    rule .starParameters]

/-- A part that a comma or the colon behind the parameters ends. -/
def ended (part : TokenReader Unit) : TokenReader Node :=
  firstOf [
    do
      part
      sign ","
      return .items [],
    do
      part
      ahead (sign ":")
      return .items []]

def slashedPlainParameters : TokenReader Node := ended do
  let _ ← many1 (rule .plainParameter)
  sign "/"

def slashedParameters : TokenReader Node := ended do
  let _ ← many (rule .plainParameter)
  let _ ← many1 (rule .defaultParameter)
  sign "/"

def starParameters : TokenReader Node :=
  firstOf [
    whenStrict (rule .misusedStar),
    do
      sign "*"
      let _ ← rule .plainParameter
      let _ ← many (rule .anyParameter)
      let _ ← optionally (rule .doubleStarParameter)
      return .items [],
    do
      sign "*"
      sign ","
      let _ ← many1 (rule .anyParameter)
      let _ ← optionally (rule .doubleStarParameter)
      return .items [],
    rule .doubleStarParameter]

def doubleStarParameter : TokenReader Node :=
  firstOf [
    whenStrict (rule .misusedDoubleStar),
    do
      sign "**"
      rule .plainParameter]

def plainParameter : TokenReader Node := ended do
  let _ ← name

def defaultParameter : TokenReader Node := ended do
  let _ ← name
  let _ ← rule .defaultValue

def anyParameter : TokenReader Node := ended do
  let _ ← name
  let _ ← optionally (rule .defaultValue)

def defaultValue : TokenReader Node :=
  firstOf [
    do
      sign "="
      rule .expression,
    whenStrict (rule .misusedDefault)]

/-! ## Targets -/

def targets : TokenReader Node :=
  firstOf [
    do
      let node ← rule .target
      notAhead (sign ",")
      return node,
    do
      let _ ← rule .target
      let _ ← many (do sign ","; rule .target)
      let _ ← optionally (sign ",")
      return .items []]

def targetsInParentheses : TokenReader Node :=
  firstOf [
    do
      let _ ← rule .target
      let _ ← many1 (do sign ","; rule .target)
      let _ ← optionally (sign ",")
      return .items [],
    do
      let _ ← rule .target
      sign ","
      return .items []]

def target : TokenReader Node :=
  firstOf [
    do
      sign "*"
      notAhead (sign "*")
      rule .target,
    rule .targetOrAtom]

/-- The signs that a target can go on with. -/
def continued : TokenReader Unit := firstOf [sign "(", sign "[", sign "."]

/-- An attribute or a subscript of a target. -/
def partOfTarget (behind : TokenReader Unit) : List (TokenReader Node) := [
  do
    let _ ← rule .targetPrimary
    sign "."
    let _ ← name
    behind
    return .items [],
  do
    let _ ← rule .targetPrimary
    sign "["
    let _ ← rule .slices
    sign "]"
    behind
    return .items []]

def targetOrAtom : TokenReader Node :=
  firstOf (partOfTarget rule (notAhead continued) ++ [rule .targetAtom])

def targetAtom : TokenReader Node :=
  firstOf [
    name,
    do
      sign "("
      let node ← rule .targetOrAtom
      sign ")"
      return node,
    do
      sign "("
      let _ ← optionally (rule .targetsInParentheses)
      sign ")"
      return .items [],
    do
      sign "["
      let _ ← optionally (rule .targetsInBrackets)
      sign "]"
      return .items []]

def targetPrimary : TokenReader Node :=
  firstOf (partOfTarget rule (ahead continued) ++ [
    do
      let _ ← rule .targetPrimary
      let _ ← rule .generator
      ahead continued
      return .items [],
    do
      let _ ← rule .targetPrimary
      sign "("
      let _ ← optionally (rule .arguments)
      sign ")"
      ahead continued
      return .items [],
    do
      let node ← rule .atom
      ahead continued
      return node])

end Findings.Expression.Arguments
