import Findings.Expression.Token

/-!
Contract: the rules of the grammar of expressions, by name.

Owns: the names, and how the outcome of a rule at a place is kept.
-/

set_option autoImplicit false

namespace Findings.Expression

/-- The rules.  Those whose names begin with `misused` match mistakes. -/
inductive Rule where
  | text
  | expressions
  | expression
  | plainExpression
  | yielding
  | starredExpressions
  | starredExpression
  | starredNamedExpressions
  | starredNamedExpression
  | assignment
  | namedExpression
  | disjunction
  | conjunction
  | inversion
  | comparison
  | bitOr
  | bitXor
  | bitAnd
  | shift
  | sum
  | term
  | factor
  | power
  | awaited
  | primary
  | slices
  | slice
  | atom
  | group
  | lambda
  | parameters
  | parameterList
  | slashedPlainParameters
  | slashedParameters
  | starParameters
  | doubleStarParameter
  | plainParameter
  | defaultParameter
  | anyParameter
  | defaultValue
  | strings
  | list
  | tuple
  | set
  | dict
  | pairs
  | spreadOrPair
  | pair
  | loops
  | loop
  | listComprehension
  | setComprehension
  | generator
  | dictComprehension
  | arguments
  | argumentList
  | keywordArguments
  | unpackedArgument
  | keywordOrUnpacked
  | keywordOrSpread
  | targets
  | targetsInBrackets
  | targetsInParentheses
  | target
  | targetOrAtom
  | targetAtom
  | targetPrimary
  | misusedExpression
  | misusedCommand
  | misusedName
  | misusedArguments
  | misusedKeyword
  | misusedComprehension
  | misusedDictComprehension
  | misusedGroup
  | misusedPairs
  | misusedPair
  | misusedTarget
  | misusedParameters
  | misusedParameterStart
  | misusedStar
  | misusedDoubleStar
  | misusedDefault
deriving DecidableEq, Repr, Hashable

/-- How the outcome of a rule at a place is kept: not at all, once it is known, or while a longer
match is sought, because the rule begins with itself. -/
inductive Memory where
  | fresh
  | kept
  | growing
deriving DecidableEq, Repr

/-- How the outcomes of a rule are kept. -/
def Rule.memory : Rule → Memory
  | .expression | .starredExpression | .disjunction | .conjunction | .inversion | .factor
  | .awaited | .strings | .arguments | .target | .targetOrAtom | .misusedName => .kept
  | .bitOr | .bitXor | .bitAnd | .shift | .sum | .term | .primary | .targetPrimary => .growing
  | _ => .fresh

end Findings.Expression
