import Findings.Text.Basic

/-!
Contract: the readable name of a rule.

Owns: `displayName`, which joins the words of a rule id, each with a capital first.  Words are the
maximal runs of ASCII letters and digits; everything else only separates them.
-/

set_option autoImplicit false

namespace Findings.Sarif

/-- A word with its first letter large and the others small. -/
def capitalized : Text → Text
  | [] => []
  | first :: rest => first.toUpper :: rest.map CodePoint.toLower

/-- What separates words reads as a blank. -/
def blankSeparators (text : Text) : Text :=
  text.map fun c => if c.isAlphanumeric then c else CodePoint.ofChar ' '

/-- The words of a rule id. -/
def wordsOf (ruleId : Text) : List Text :=
  (Text.splitOn (CodePoint.ofChar ' ') (blankSeparators ruleId)).filter fun word => !word.isEmpty

/-- The readable name of a rule. -/
def displayName (ruleId : Text) : Text := (wordsOf ruleId).flatMap capitalized

end Findings.Sarif
