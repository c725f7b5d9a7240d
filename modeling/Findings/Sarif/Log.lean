import Findings.Text.Basic

/-!
Contract: what a SARIF log of one run says.

Owns: the parts of a log as types, namely artifacts, rule descriptors, results and notifications with
their locations, and when a run counts as successful.

Does not own: how a log comes about (`Findings.Sarif.Draft`) or how it is written
(`Findings.Sarif.Encoding`).
-/

set_option autoImplicit false

namespace Findings.Sarif

inductive Level where
  | error
  | warning
deriving DecidableEq, Repr

/-- A place in a file, as far as it is known, with the source text if there is any. -/
structure Region where
  startLine : Option Int := none
  startColumn : Option Int := none
  endLine : Option Int := none
  endColumn : Option Int := none
  snippet : Option Text := none
deriving DecidableEq

/-- Where a finding is: the file by name and by its place among the artifacts. -/
structure Location where
  uri : Text
  index : Nat
  region : Option Region := none
deriving DecidableEq

/-- What later runs recognise a finding by. -/
structure Fingerprints where
  message : Text
  artifactUri : Text
  ruleId : Option Text := none
deriving DecidableEq

/-- What results and notifications have in common. -/
structure Finding where
  level : Level
  text : Text
  location : Location
  fingerprints : Option Fingerprints := none
deriving DecidableEq

/-- Whether a suppression is written in the file or lies outside of it. -/
inductive SuppressionKind where
  | inSource
  | external
deriving DecidableEq, Repr

structure Suppression where
  kind : SuppressionKind
  justification : Text
deriving DecidableEq

/-- A finding of a rule.  `suppressions` is present when suppressed findings were taken in with the
file. -/
structure Result where
  finding : Finding
  ruleId : Text
  ruleIndex : Option Nat := none
  suppressions : Option (List Suppression) := none
deriving DecidableEq

/-- A file with findings. -/
structure Artifact where
  uri : Text
deriving DecidableEq

structure RuleDescriptor where
  id : Text
  name : Text
  helpUri : Option Text := none
  description : Text
  category : Text
deriving DecidableEq

/-- The tool that made the findings. -/
structure Driver where
  name : Text
  version : Option Text := none
  informationUri : Text
  rules : List RuleDescriptor := []
deriving DecidableEq

/-- A log of one run.  A notification is a finding that belongs to no rule. -/
structure Log where
  driver : Driver
  artifacts : List Artifact := []
  results : List Result := []
  notifications : List Finding := []
deriving DecidableEq

/-- A run fails when a finding without a rule is an error. -/
def Log.executionSuccessful (log : Log) : Bool :=
  log.notifications.all fun notification => notification.level != .error

end Findings.Sarif
