import Findings.Expression.Literal
import Findings.Text.Quoted

/-!
Contract: the handlers that tags name.

Owns: what stands behind the equals sign of a tag that begins with `@`: the dotted name of a handler
and its arguments in brackets, or a literal alone.
-/

set_option autoImplicit false

namespace Findings.Terminal

/-- Whether a code point belongs to the name of a handler. -/
def isHandlerName (c : CodePoint) : Bool := c.isWord || c = '.'

/-- The literal in what a tag is given: the arguments behind the name of a handler, which are none if
nothing stands behind it, or everything. -/
def handlerArguments (given : Text) : Text :=
  match given.dropWhile isHandlerName with
  | [] => "()"
  | c :: rest =>
      if c = '(' ∧ rest.getLast? = some (CodePoint.ofChar ')') ∧ !rest.contains Text.lineFeed then
        c :: rest
      else given

/-- Why what a tag is given names no handler. -/
structure HandlerFault where
  given : Text
  cause : Expression.EvaluationFault

def HandlerFault.message (fault : HandlerFault) : Text :=
  let about := Text.ofString "error parsing "
  match fault.cause with
  | .syntaxFault cause =>
      about ++ Text.quoted (handlerArguments fault.given.trimBlank) ++ Text.ofString " in "
        ++ Text.quoted fault.given ++ Text.ofString "; " ++ cause.message
  | .literal cause => about ++ Text.quoted fault.given ++ Text.ofString "; " ++ cause.message
  | .unencodable cause => about ++ Text.quoted fault.given ++ Text.ofString "; " ++ cause.message
  | .tooDeep => about ++ Text.quoted fault.given ++ Text.ofString "; "

/-- Check what a tag is given. -/
def checkHandler (given : Text) : Except HandlerFault Unit :=
  (Expression.checkLiteral (handlerArguments given.trimBlank)).mapError fun cause =>
    { given := given, cause := cause }

end Findings.Terminal
