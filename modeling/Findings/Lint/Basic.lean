import Findings.Entries

/-!
Contract: what a linter reports.

Owns: messages, the files that they belong to, and the documentation of rules.  A severity of two
means an error; every other number means a warning.  Positions count from one, but are kept as they
are reported.
-/

set_option autoImplicit false

namespace Findings.Lint

/-- Why a message is suppressed: `directive` names a comment in the file, any other kind something
outside of it. -/
structure Suppression where
  kind : Text
  justification : Option Text := none
deriving DecidableEq

/-- The severity of a message that does not tell. -/
def warningSeverity : Int := 1

/-- The severity of an error. -/
def errorSeverity : Int := 2

structure Message where
  text : Text
  severity : Int := warningSeverity
  fatal : Bool := false
  ruleId : Option Text := none
  line : Option Int := none
  column : Option Int := none
  endLine : Option Int := none
  endColumn : Option Int := none
  source : Option Text := none
  suppressions : Option (List Suppression) := none
deriving DecidableEq

/-- The messages of one file. -/
structure FileResult where
  path : Text
  messages : List Message := []
  suppressedMessages : List Message := []
deriving DecidableEq

structure RuleDocs where
  description : Option Text := none
  url : Option Text := none
  category : Option Text := none
deriving DecidableEq

/-- What is known about a rule. -/
structure RuleMeta where
  docs : Option RuleDocs := none
  kind : Option Text := none
deriving DecidableEq

/-- Rule metadata by rule id.  A rule may be listed without metadata. -/
abbrev RuleTable := Entries (Option RuleMeta)

/-- The metadata of a rule; none when the rule is not listed or listed without metadata. -/
def RuleTable.meta? (rules : RuleTable) (ruleId : Text) : Option RuleMeta :=
  (Entries.find? ruleId rules).join

/-- A whole lint run. -/
structure Report where
  results : List FileResult
  rules : RuleTable := []
deriving DecidableEq

end Findings.Lint
