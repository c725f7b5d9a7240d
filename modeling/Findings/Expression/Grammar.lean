import Findings.Expression.Atoms
import Findings.Expression.Mistakes
import Findings.Text.Lines

/-!
Contract: the grammar of expressions as a whole.

Owns: the reader of every rule, and the reading of a text: once for expressions, and once more, if it
is none, for the mistake in it.

When reading fails, a fault of the tokens further on in the text goes before what the grammar finds,
and so does a bracket that is never closed, if it is opened on an earlier line.
-/

set_option autoImplicit false

namespace Findings.Expression

/-- The reader of a rule in terms of the readers of all rules. -/
def ruleBody (rule : Rule → TokenReader Node) (field : Text → Except Stop Node) : Rule → TokenReader Node
  | .text => Operators.text rule
  | .expressions => Operators.commaTuple (rule .expression)
  | .expression => Operators.expression rule
  | .plainExpression => Operators.plainExpression rule
  | .yielding => Operators.yielding rule
  | .starredExpressions => Operators.commaTuple (rule .starredExpression)
  | .starredExpression => Operators.starredOr rule .expression
  | .starredNamedExpressions => Operators.commaList (rule .starredNamedExpression)
  | .starredNamedExpression => Operators.starredOr rule .namedExpression
  | .assignment => Operators.assignment rule
  | .namedExpression => Operators.namedExpression rule
  | .disjunction => Operators.joinedBy rule "or" .conjunction
  | .conjunction => Operators.joinedBy rule "and" .inversion
  | .inversion => Operators.inversion rule
  | .comparison => Operators.comparison rule
  | .bitOr => Operators.leftToRight rule .bitOr .bitXor ["|"]
  | .bitXor => Operators.leftToRight rule .bitXor .bitAnd ["^"]
  | .bitAnd => Operators.leftToRight rule .bitAnd .shift ["&"]
  | .shift => Operators.leftToRight rule .shift .sum ["<<", ">>"]
  | .sum => Operators.leftToRight rule .sum .term ["+", "-"]
  | .term => Operators.leftToRight rule .term .factor ["*", "/", "//", "%", "@"]
  | .factor => Operators.factor rule
  | .power => Operators.power rule
  | .awaited => Operators.awaited rule
  | .primary => Atoms.primary rule
  | .slices => Atoms.slices rule
  | .slice => Atoms.slice rule
  | .atom => Atoms.atom rule
  | .group => Atoms.group rule
  | .lambda => Arguments.lambda rule
  | .parameters => Arguments.parameters rule
  | .parameterList => Arguments.parameterList rule
  | .slashedPlainParameters => Arguments.slashedPlainParameters rule
  | .slashedParameters => Arguments.slashedParameters rule
  | .starParameters => Arguments.starParameters rule
  | .doubleStarParameter => Arguments.doubleStarParameter rule
  | .plainParameter => Arguments.plainParameter
  | .defaultParameter => Arguments.defaultParameter rule
  | .anyParameter => Arguments.anyParameter rule
  | .defaultValue => Arguments.defaultValue rule
  | .strings => Atoms.strings field
  | .list => Atoms.list rule
  | .tuple => Atoms.tuple rule
  | .set => Atoms.set rule
  | .dict => Atoms.dict rule
  | .pairs => Operators.commaList (rule .spreadOrPair)
  | .spreadOrPair => Atoms.spreadOrPair rule
  | .pair => Atoms.pair rule
  | .loops => Atoms.loops rule
  | .loop => Atoms.loop rule
  | .listComprehension =>
      Atoms.comprehension rule "[" "]" (rule .namedExpression) .listComprehension
        .misusedComprehension
  | .setComprehension =>
      Atoms.comprehension rule "\x7b" "\x7d" (rule .namedExpression) .setComprehension
        .misusedComprehension
  | .generator =>
      Atoms.comprehension rule "(" ")" (Atoms.generated rule) .generator .misusedComprehension
  | .dictComprehension =>
      Atoms.comprehension rule "\x7b" "\x7d" (rule .pair) .dictComprehension
        .misusedDictComprehension
  | .arguments => Arguments.arguments rule
  | .argumentList => Arguments.argumentList rule
  | .keywordArguments => Arguments.keywordArguments rule
  | .unpackedArgument => Arguments.unpackedArgument rule
  | .keywordOrUnpacked => Arguments.keywordOrUnpacked rule
  | .keywordOrSpread => Arguments.keywordOrSpread rule
  | .targets => Arguments.targets rule
  | .targetsInBrackets => Operators.commaList (rule .target)
  | .targetsInParentheses => Arguments.targetsInParentheses rule
  | .target => Arguments.target rule
  | .targetOrAtom => Arguments.targetOrAtom rule
  | .targetAtom => Arguments.targetAtom rule
  | .targetPrimary => Arguments.targetPrimary rule
  | .misusedExpression => Mistakes.expression rule
  | .misusedCommand => Mistakes.command rule
  | .misusedName => Mistakes.namedExpression rule
  | .misusedArguments => Mistakes.arguments rule
  | .misusedKeyword => Mistakes.keyword rule
  | .misusedComprehension => Mistakes.comprehension rule
  | .misusedDictComprehension => Mistakes.dictComprehension rule
  | .misusedGroup => Mistakes.group rule
  | .misusedPairs => Mistakes.pairs rule
  | .misusedPair => Mistakes.pair rule
  | .misusedTarget => Mistakes.target rule
  | .misusedParameters => Mistakes.parameters rule
  | .misusedParameterStart => Mistakes.parameterStart rule
  | .misusedStar => Mistakes.star rule
  | .misusedDoubleStar => Mistakes.doubleStar
  | .misusedDefault => Mistakes.default

/-! ## Failures -/

namespace Lexed

/-- A fault under the name of what it is found in. -/
def named (inField : Bool) (fault : SyntaxFault) : SyntaxFault :=
  if inField then .formatted fault else fault

/-- The fault at the end of the tokens. -/
def endFault (lexed : Lexed) (inField : Bool) : SyntaxFault :=
  match lexed.ending with
  | .fault fault => .lexical fault
  | .afterBackslash => named inField .afterBackslash
  | .complete | .early =>
      match lexed.opened with
      | [] => named inField .unexpectedEnd
      | (bracket, _) :: _ => named inField (.neverClosed bracket)

/-- The bracket that is never closed, if it is opened on a line before another one. -/
def openBefore? (lexed : Lexed) (line : Nat) : Option CodePoint :=
  match lexed.opened with
  | [] => none
  | (bracket, opened) :: _ => if opened < line then some bracket else none

/-- The fault of a reading that fails when so many tokens have been looked at. -/
def orTokenFault (lexed : Lexed) (inField : Bool) (seen : Nat) (fault : SyntaxFault) :
    SyntaxFault :=
  match lexed.ending with
  | .fault further => .lexical further
  | .complete => fault
  | .early | .afterBackslash =>
      match (lexed.tokens[seen - 1]?).bind fun last => lexed.openBefore? last.line with
      | some bracket => named inField (.neverClosed bracket)
      | none => fault

/-- The reason to stop of a reading that stops. -/
def stopOf (lexed : Lexed) (inField : Bool) (seen : Nat) : Stop → Stop
  | .noToken => .fault (lexed.endFault inField)
  | .fault fault => .fault (lexed.orTokenFault inField seen fault)
  | .tooDeep => .tooDeep

/-- The fault where no rule tells the mistake: of the last token that the first reading looked at. -/
def placeFault (lexed : Lexed) (seen : Nat) : SyntaxFault :=
  match lexed.tokens[seen - 1]? with
  | some ⟨.indent, _, _⟩ => .unexpectedIndent
  | _ => .misplacedToken

end Lexed

/-! ## Reading -/

/-- Read tokens once. -/
def readOnce (reader : TokenReader Node) (source : Source) (progress : Progress) :
    Except Stop (Option Node) × Progress :=
  StateT.run (ExceptT.run (OptionT.run (reader source))) progress

/-- Read a text that a rule describes. -/
def readTokens (reader : TokenReader Node) (inField : Bool) (lexed : Lexed) : Except Stop Node :=
  let source : Source := { tokens := lexed.tokens.toArray, inField := inField }
  match readOnce reader source {} with
  | (.ok (some node), _) => .ok node
  | (.error stop, progress) => .error (lexed.stopOf inField progress.seen stop)
  | (.ok none, first) =>
      match readOnce reader source { seen := first.seen, strict := true } with
      | (.error stop, second) => .error (lexed.stopOf inField second.seen stop)
      | (.ok _, second) =>
          match lexed.placeFault first.seen with
          | .unexpectedIndent => .error (.fault (Lexed.named inField .unexpectedIndent))
          | fault =>
              .error (.fault (lexed.orTokenFault inField second.seen (Lexed.named inField fault)))

/-- The deepest nesting of rules that is read. -/
def maxDepth : Nat := 6000

/-- The reader of every rule, down to a depth. -/
def ruleReader : (depth : Nat) → Rule → TokenReader Node
  | 0, _ => throwThe Stop .tooDeep
  | depth + 1, rule =>
      TokenReader.underMemory rule (ruleBody (ruleReader depth)
        (fun field =>
          readTokens (ruleReader depth .starredExpressions) true (tokensOf (Text.universalNewlines field)))
        rule)

/-- Read an expression. -/
def read (text : Text) : Except Stop Node :=
  if text.any fun c => c.val = 0 then .error (.fault .nullCharacter)
  else readTokens (ruleReader maxDepth .text) false (tokensOf (Text.universalNewlines text))

end Findings.Expression
