import Findings.Summary.View
import Findings.Terminal.Panel

/-!
Contract: how a summary is printed.

Owns: the header with the tool and the number of files, a line for every finding under its file, and
the footer with the counts and the outcome.
-/

set_option autoImplicit false

namespace Findings

/-- The name under which the program speaks. -/
def programName : Text := Text.ofString "lintsarif"

/-- The version of the program. -/
def programVersion : Text := Text.ofString "0.3.0"

namespace Summary

/-- The line of a finding. -/
def Entry.line (entry : Entry) : Text :=
  Text.ofString "  " ++ entry.icon ++ Text.ofString " " ++ entry.label
    ++ (if entry.position.isEmpty then []
        else Text.ofString "  (" ++ entry.position ++ Text.ofString ")")
    ++ Text.ofString "  " ++ entry.text
    ++ (if entry.suppressed then Text.ofString "  [suppressed]" else [])

/-- The texts printed for a file: its uri, its findings, and an empty one. -/
def Group.texts (group : Group) : List Text :=
  group.uri :: group.entries.map Entry.line ++ [[]]

/-- The rule above and below the footer. -/
def footerRule : Text := Text.replicate 60 Terminal.horizontal

/-- The numbers of a view. -/
def View.counts (view : View) : Text :=
  Text.ofString "Results: " ++ Text.ofNat view.results
    ++ Text.ofString " (" ++ Text.ofNat view.suppressed ++ Text.ofString " suppressed)  Rules: "
    ++ Text.ofNat view.rules ++ Text.ofString "  Notifications: " ++ Text.ofNat view.notifications

/-- The outcome of the run. -/
def View.outcome (view : View) : Text :=
  if view.successful then "Execution successful" else "Execution failed"

/-- The texts of the footer. -/
def View.footer (view : View) : List Text := [footerRule, view.counts, view.outcome, footerRule]

/-- The text in the header. -/
def View.header (view : View) : Text :=
  programName ++ Text.ofString " v" ++ programVersion ++ Text.ofString " · " ++ view.toolName

/-- The lines of the header. -/
def View.headerLines (width : Nat) (view : View) : List Text :=
  Terminal.panel width view.header (Text.ofNat view.artifacts ++ Text.ofString " artifact(s)")

/-- The texts printed after the header. -/
def View.body (view : View) : List Text :=
  view.groups.flatMap Group.texts ++ view.footer

/-- What is printed of a view, one part after the other. -/
def View.parts (width : Nat) (view : View) : List Text :=
  Terminal.unlines (view.headerLines width) :: view.body.map (Terminal.print width)

/-- The printed view. -/
def View.print (width : Nat) (view : View) : Text := (view.parts width).flatten

/-- The printed summary of a log in JSON form. -/
def ofJson (width : Nat) (details : Bool) (log : Json) : Except Json.AccessFault Text := do
  return (← View.ofJson details log).print width

/-- The printed summary of a log. -/
def ofLog (width : Nat) (details : Bool) (log : Sarif.Log) : Except Json.AccessFault Text :=
  ofJson width details log.toJson

end Summary

end Findings
