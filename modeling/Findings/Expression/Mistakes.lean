import Findings.Expression.Arguments

/-!
Contract: the rules for mistakes.

Owns: what is matched only in order to say what is wrong with it.  They count when a text is read a
second time, after it has turned out to be no expression.  `rule` is the reader of every rule.
-/

set_option autoImplicit false

namespace Findings.Expression.Mistakes

open TokenReader

variable (rule : Rule → TokenReader Node)

/-! ## Expressions -/

/-- The names that are words in some places. -/
def softWords : List String := ["_", "case", "match"]

/-- The names of commands that once needed no brackets. -/
def commands : List String := ["print", "exec"]

/-- The name of a command. -/
def command? : Node → Option Text
  | .name text => if commands.any fun known => Text.ofString known = text then some text else none
  | _ => none

/-- The number of brackets that are open behind the last token. -/
def levelBehind : TokenReader Nat := do
  let place ← here
  return (((← read).tokens[place - 1]?).map Placed.level).getD 0

/-- Two expressions side by side in brackets, or a condition without its other case. -/
def expression : TokenReader Node := mistake [
  do
    notAhead (firstOf [
      do
        let _ ← name
        let _ ← string,
      do
        let _ ← accept fun
          | .name text => softWords.any fun known => Text.ofString known = text
          | _ => false])
    let first ← rule .disjunction
    let _ ← rule .plainExpression
    if (command? first).isSome ∨ (← levelBehind) = 0 then return none
    return some .missingComma,
  do
    let _ ← rule .disjunction
    word "if"
    let _ ← rule .disjunction
    notAhead (firstOf [word "else", sign ":"])
    return some .missingElse]

/-- A command without brackets. -/
def command : TokenReader Node := mistake [do
  let first ← name
  notAhead (sign "(")
  let _ ← rule .starredExpressions
  return (command? first).map .missingParentheses]

/-- Look ahead that no second equals sign follows. -/
def noEqualsAhead : TokenReader Unit := notAhead (firstOf [sign "=", sign ":="])

/-- An assignment to what is no name, or a single equals sign. -/
def namedExpression : TokenReader Node := mistake [
  do
    let target ← rule .expression
    sign ":="
    let _ ← rule .expression
    return some (.assignmentOf target.title),
  do
    let _ ← name
    sign "="
    let _ ← rule .bitOr
    noEqualsAhead
    return some .singleEquals,
  do
    notAhead (firstOf [
      do
        let _ ← rule .list,
      do
        let _ ← rule .tuple,
      do
        let _ ← rule .generator,
      word "True",
      word "None",
      word "False"])
    let target ← rule .bitOr
    sign "="
    let _ ← rule .bitOr
    noEqualsAhead
    return some (.equalsBehind target.title)]

/-- Stars in brackets around one expression. -/
def group : TokenReader Node := mistake [
  do
    sign "("
    let _ ← rule .unpackedArgument
    sign ")"
    return some .starredGroup,
  do
    sign "("
    sign "**"
    let _ ← rule .expression
    sign ")"
    return some .doubleStarredGroup]

/-! ## Arguments -/

/-- What is wrong with arguments in front of others. -/
def orderMistake (arguments : List Node) : Misuse :=
  if arguments.any fun
    | .keyword true => true
    | _ => false
  then .positionBehindSpread
  else .positionBehindKeyword

/-- A generator among other arguments, or arguments in a wrong order. -/
def arguments : TokenReader Node := mistake [
  do
    let _ ← firstOf [
      do
        let _ ← commaSeparated (Arguments.positional rule)
        sign ","
        rule .keywordArguments,
      rule .keywordArguments]
    sign ","
    let _ ← commaSeparated (do
      let _ ← rule .unpackedArgument
      notAhead (sign "="))
    return some .unpackingBehindKeywords,
  do
    let _ ← rule .expression
    let _ ← rule .loops
    sign ","
    let _ ← optionally (firstOf [
      rule .argumentList,
      do
        let _ ← rule .expression
        rule .loops])
    return some .bareGenerator,
  do
    let _ ← name
    sign "="
    let _ ← rule .expression
    let _ ← rule .loops
    return some .singleEquals,
  do
    let first ← rule .argumentList
    let _ ← rule .loops
    return if (first.parts.filter fun node => !node.isKeyword).length ≤ 1 then none
      else some .bareGenerator,
  do
    let _ ← rule .argumentList
    sign ","
    let _ ← rule .expression
    let _ ← rule .loops
    return some .bareGenerator,
  do
    let first ← rule .argumentList
    sign ","
    let _ ← rule .argumentList
    return some (orderMistake first.parts)]

/-- An equals sign behind what is no name. -/
def keyword : TokenReader Node := mistake (
  (["True", "False", "None"].map fun constant => do
    word constant
    sign "="
    return some (.target constant))
  ++ [
    do
      let _ ← name
      sign "="
      let _ ← rule .expression
      let _ ← rule .loops
      return some .singleEquals,
    do
      notAhead (do
        let _ ← name
        sign "=")
      let _ ← rule .expression
      sign "="
      return some .equalsInArgument])

/-! ## Comprehensions and dictionaries -/

/-- Several expressions, or a starred one, in front of the loops of a comprehension. -/
def comprehension : TokenReader Node := mistake [
  do
    firstOf [sign "[", sign "(", sign "\x7b"]
    let _ ← rule .unpackedArgument
    let _ ← rule .loops
    return some .unpackedComprehension,
  do
    firstOf [sign "[", sign "\x7b"]
    let _ ← rule .starredNamedExpression
    sign ","
    let _ ← rule .starredNamedExpressions
    let _ ← rule .loops
    return some .bareTarget,
  do
    firstOf [sign "[", sign "\x7b"]
    let _ ← rule .starredNamedExpression
    sign ","
    let _ ← rule .loops
    return some .bareTarget]

/-- A spread dictionary in front of the loops of a comprehension. -/
def dictComprehension : TokenReader Node := mistake [do
  sign "\x7b"
  sign "**"
  let _ ← rule .bitOr
  let _ ← rule .loops
  sign "\x7d"
  return some .spreadComprehension]

/-- What cannot be a target of a loop. -/
def target : TokenReader Node := mistake [do
  let _ ← optionally (word "async")
  word "for"
  let target ← rule .starredExpressions
  return target.badTarget?.map fun bad => .target bad.title]

/-- A key without a proper value. -/
def badValues : List (TokenReader (Option Misuse)) := [
  do
    let _ ← rule .expression
    sign ":"
    sign "*"
    let _ ← rule .bitOr
    return some .starredValue,
  do
    let _ ← rule .expression
    sign ":"
    ahead (firstOf [sign "\x7d", sign ","])
    return some .missingValue]

/-- Pairs in front of a mistaken one, or a first pair that is mistaken. -/
def pairs : TokenReader Node :=
  firstOf [
    do
      let _ ← commaSeparated (rule .spreadOrPair)
      sign ","
      rule .misusedPair,
    mistake (badValues rule)]

def pair : TokenReader Node := mistake ((do
  let _ ← rule .expression
  notAhead (sign ":")
  return some .missingColon) :: badValues rule)

/-! ## Parameters -/

/-- Parameters that end with a slash. -/
def slashed : TokenReader Node := firstOf [rule .slashedPlainParameters, rule .slashedParameters]

/-- A plain parameter, or a comma in its place. -/
def plainOrComma : TokenReader Unit :=
  firstOf [
    sign ",",
    do
      let _ ← rule .plainParameter]

def parameters : TokenReader Node := mistake [
  do
    let _ ← many (rule .plainParameter)
    let _ ← rule .misusedParameterStart
    let _ ← rule .plainParameter
    return some .missingDefaultBetween,
  do
    let _ ← many (rule .plainParameter)
    sign "("
    let _ ← commaSeparated name
    let _ ← optionally (sign ",")
    sign ")"
    return some .bracketedParameters,
  do
    sign "/"
    sign ","
    return some .leadingSlash,
  do
    let _ ← slashed rule
    let _ ← many (rule .anyParameter)
    sign "/"
    return some .secondSlash,
  do
    let _ ← optionally (slashed rule)
    let _ ← many (rule .anyParameter)
    sign "*"
    plainOrComma rule
    let _ ← many (rule .anyParameter)
    sign "/"
    return some .slashBehindStar,
  do
    let _ ← many1 (rule .anyParameter)
    sign "/"
    sign "*"
    return some .missingCommaBehindSlash]

/-- Parameters with default values. -/
def parameterStart : TokenReader Node :=
  firstOf [
    rule .slashedParameters,
    do
      let _ ← many1 (rule .defaultParameter)
      return .items []]

def star : TokenReader Node := mistake [
  do
    sign "*"
    firstOf [
      sign ":",
      do
        sign ","
        firstOf [sign ":", sign "**"]]
    return some .lonelyStar,
  do
    sign "*"
    let _ ← name
    sign "="
    return some .starDefault,
  do
    sign "*"
    firstOf [
      do
        let _ ← rule .plainParameter,
      sign ","]
    let _ ← many (rule .anyParameter)
    sign "*"
    firstOf [
      do
        let _ ← rule .plainParameter,
      sign ","]
    return some .secondStar]

def doubleStar : TokenReader Node := mistake [
  do
    sign "**"
    let _ ← name
    sign "="
    return some .doubleStarDefault,
  do
    sign "**"
    let _ ← name
    sign ","
    let _ ← name
    return some .parameterBehindDoubleStar,
  do
    sign "**"
    let _ ← name
    sign ","
    firstOf [sign "*", sign "**", sign "/"]
    return some .parameterBehindDoubleStar]

def default : TokenReader Node := mistake [do
  sign "="
  ahead (firstOf [sign ")", sign ","])
  return some .missingDefault]

end Findings.Expression.Mistakes
