import Findings.Expression.Token
import Findings.Number.Numeral

/-!
Contract: why a text is no expression.

Owns: the causes and their wordings.
-/

set_option autoImplicit false

namespace Findings.Expression

/-- Uses of tokens that the grammar knows to be mistaken. -/
inductive Misuse where
  | missingComma
  | missingElse
  | missingParentheses (name : Text)
  | assignmentOf (title : Text)
  | singleEquals
  | equalsBehind (title : Text)
  | target (title : Text)
  | unpackedComprehension
  | bareTarget
  | bareStar
  | equalsInArgument
  | unpackingBehindKeywords
  | positionBehindKeyword
  | positionBehindSpread
  | bareGenerator
  | starredGroup
  | doubleStarredGroup
  | starredValue
  | missingValue
  | missingColon
  | spreadComprehension
  | missingDefault
  | missingDefaultBetween
  | bracketedParameters
  | leadingSlash
  | secondSlash
  | slashBehindStar
  | missingCommaBehindSlash
  | lonelyStar
  | starDefault
  | secondStar
  | doubleStarDefault
  | parameterBehindDoubleStar
deriving DecidableEq

def Misuse.message : Misuse → Text
  | .missingComma => "invalid syntax. Perhaps you forgot a comma?"
  | .missingElse => "expected 'else' after 'if' expression"
  | .missingParentheses name =>
      Text.ofString "Missing parentheses in call to '" ++ name ++ Text.ofString "'. Did you mean "
        ++ name ++ Text.ofString "(...)?"
  | .assignmentOf title => Text.ofString "cannot use assignment expressions with " ++ title
  | .singleEquals => "invalid syntax. Maybe you meant '==' or ':=' instead of '='?"
  | .equalsBehind title =>
      Text.ofString "cannot assign to " ++ title
        ++ Text.ofString " here. Maybe you meant '==' instead of '='?"
  | .target title => Text.ofString "cannot assign to " ++ title
  | .unpackedComprehension => "iterable unpacking cannot be used in comprehension"
  | .bareTarget => "did you forget parentheses around the comprehension target?"
  | .bareStar => "Invalid star expression"
  | .equalsInArgument => "expression cannot contain assignment, perhaps you meant \"==\"?"
  | .unpackingBehindKeywords =>
      "iterable argument unpacking follows keyword argument unpacking"
  | .positionBehindKeyword => "positional argument follows keyword argument"
  | .positionBehindSpread => "positional argument follows keyword argument unpacking"
  | .bareGenerator => "Generator expression must be parenthesized"
  | .starredGroup => "cannot use starred expression here"
  | .doubleStarredGroup => "cannot use double starred expression here"
  | .starredValue => "cannot use a starred expression in a dictionary value"
  | .missingValue => "expression expected after dictionary key and ':'"
  | .missingColon => "':' expected after dictionary key"
  | .spreadComprehension => "dict unpacking cannot be used in dict comprehension"
  | .missingDefault => "expected default value expression"
  | .missingDefaultBetween => "non-default argument follows default argument"
  | .bracketedParameters => "Lambda expression parameters cannot be parenthesized"
  | .leadingSlash => "at least one argument must precede /"
  | .secondSlash => "/ may appear only once"
  | .slashBehindStar => "/ must be ahead of *"
  | .missingCommaBehindSlash => "expected comma between / and *"
  | .lonelyStar => "named arguments must follow bare *"
  | .starDefault => "var-positional argument cannot have default value"
  | .secondStar => "* argument may appear only once"
  | .doubleStarDefault => "var-keyword argument cannot have default value"
  | .parameterBehindDoubleStar => "arguments cannot follow var-keyword argument"

/-- Why an escape in a string denotes nothing. -/
inductive EscapeFault where
  /-- Too few hexadecimal digits behind a letter, out of so many; from a place to another. -/
  | truncated (letter : CodePoint) (digits start stop : Nat)
  | noCodePoint (start stop : Nat)
  | malformedName (start stop : Nat)
  | noByte (start : Nat)
deriving DecidableEq

/-- Where a text cannot be decoded, and why. -/
def undecodable (start stop : Nat) (cause : Text) : Text :=
  let place :=
    if stop = start + 1 then
      Text.ofString "byte 0x5c in position " ++ Text.ofNat start
    else
      Text.ofString "bytes in position " ++ Text.ofNat start ++ Text.ofString "-"
        ++ Text.ofNat (stop - 1)
  Text.ofString "(unicode error) 'unicodeescape' codec can't decode " ++ place
    ++ Text.ofString ": " ++ cause

def EscapeFault.message : EscapeFault → Text
  | .truncated letter digits start stop =>
      undecodable start stop
        (Text.ofString "truncated \\" ++ [letter] ++ Text.replicate digits (CodePoint.ofChar 'X')
          ++ Text.ofString " escape")
  | .noCodePoint start stop => undecodable start stop "illegal Unicode character"
  | .malformedName start stop => undecodable start stop "malformed \\N character escape"
  | .noByte start =>
      Text.ofString "(value error) invalid \\x escape at position " ++ Text.ofNat start

/-- Why a string is none. -/
inductive StringFault where
  | nonAsciiBytes
  | mixed
  | escape (fault : EscapeFault)
  | singleBrace
  | deepNesting
  | backslash
  | comment
  | tooManyBrackets
  | unmatched (bracket : CodePoint)
  | mismatched (closing opening : CodePoint)
  | unterminated
  | missingBrace
  | conversion
  | empty
  | emptyBefore (sign : CodePoint)
deriving DecidableEq

def StringFault.message : StringFault → Text
  | .nonAsciiBytes => "bytes can only contain ASCII literal characters"
  | .mixed => "cannot mix bytes and nonbytes literals"
  | .escape fault => fault.message
  | .singleBrace => "f-string: single '\x7d' is not allowed"
  | .deepNesting => "f-string: expressions nested too deeply"
  | .backslash => "f-string expression part cannot include a backslash"
  | .comment => "f-string expression part cannot include '#'"
  | .tooManyBrackets => "f-string: too many nested parenthesis"
  | .unmatched bracket => Text.ofString "f-string: unmatched " ++ between bracket
  | .mismatched closing opening =>
      Text.ofString "f-string: closing parenthesis " ++ between closing
        ++ Text.ofString " does not match opening parenthesis " ++ between opening
  | .unterminated => "f-string: unterminated string"
  | .missingBrace => "f-string: expecting '\x7d'"
  | .conversion => "f-string: invalid conversion character: expected 's', 'r', or 'a'"
  | .empty => "f-string: empty expression not allowed"
  | .emptyBefore sign => Text.ofString "f-string: expression required before " ++ between sign

/-- Why a text is no expression. -/
inductive SyntaxFault where
  | nullCharacter
  | lexical (fault : LexicalFault)
  | neverClosed (bracket : CodePoint)
  | unexpectedEnd
  | afterBackslash
  | unexpectedIndent
  | misplacedToken
  | misuse (fault : Misuse)
  | string (fault : StringFault)
  | excessiveNumeral (digits : Nat)
  /-- A fault of an expression inside a string. -/
  | formatted (fault : SyntaxFault)
deriving DecidableEq

def SyntaxFault.message : SyntaxFault → Text
  | .nullCharacter => "source code string cannot contain null bytes"
  | .lexical fault => fault.message
  | .neverClosed bracket => between bracket ++ Text.ofString " was never closed"
  | .unexpectedEnd => "unexpected EOF while parsing"
  | .afterBackslash => "unexpected character after line continuation character"
  | .unexpectedIndent => "unexpected indent"
  | .misplacedToken => "invalid syntax"
  | .misuse fault => fault.message
  | .string fault => fault.message
  | .excessiveNumeral digits =>
      Numeral.excessMessage digits ++ Text.ofString (" - Consider hexadecimal for huge integer "
        ++ "literals to avoid decimal conversion limits.")
  | .formatted fault => Text.ofString "f-string: " ++ fault.message

/-- Why reading an expression stops: the tokens end, something is wrong, or parts are nested too
deep. -/
inductive Stop where
  | noToken
  | fault (fault : SyntaxFault)
  | tooDeep
deriving DecidableEq

end Findings.Expression
