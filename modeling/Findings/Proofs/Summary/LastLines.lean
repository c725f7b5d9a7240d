import Findings.Proofs.Path.Segments
import Findings.Summary.Print

/-!
Contract: the last lines of a printed summary.

Owns:
- the lines of an output, and that lines printed above others leave these as they are;
- `lineBeforeLast?_print`: whatever a summary shows, the line in front of its last one is the
  outcome of the run.

The counts above the outcome can be folded, and a uri or a message can hold line feeds, so the lines
are counted from the end.
-/

set_option autoImplicit false

namespace Findings

namespace Terminal

/-- The lines of an output, in which a line feed ends each line. -/
def linesOf (output : Text) : List Text := (Text.splitOn Text.lineFeed output).dropLast

/-- The line in front of the last line of an output. -/
def lineBeforeLast? (output : Text) : Option Text := (linesOf output).dropLast.getLast?

theorem unlines_append (lines others : List Text) :
    unlines (lines ++ others) = unlines lines ++ unlines others :=
  List.flatMap_append

theorem flatten_map_print (width : Nat) (texts : List Text) :
    (texts.map (print width)).flatten = unlines (texts.flatMap (wrap width)) := by
  unfold unlines print
  rw [List.flatMap_assoc, List.flatMap_def]
  rfl

/-- Printed lines keep what is printed behind them apart. -/
theorem exists_splitOn_unlines (lines : List Text) (rest : Text) :
    ∃ before, Text.splitOn Text.lineFeed (unlines lines ++ rest) =
      before ++ Text.splitOn Text.lineFeed rest := by
  induction lines with
  | nil => exact ⟨[], rfl⟩
  | cons line lines inductionHypothesis =>
      obtain ⟨before, isSplit⟩ := inductionHypothesis
      refine ⟨Text.splitOn Text.lineFeed line ++ before, ?_⟩
      have lineFirst : unlines (line :: lines) ++ rest =
          line ++ Text.lineFeed :: (unlines lines ++ rest) := by
        simp [unlines]
      rw [lineFirst, Text.splitOn_append_cons, isSplit, List.append_assoc]

end Terminal

namespace Summary

open Terminal

section Footer

variable (width : Nat) (view : View)

theorem print_eq_unlines :
    view.print width = unlines (view.headerLines width ++ view.body.flatMap (wrap width)) := by
  unfold View.print View.parts
  rw [List.flatten_cons, flatten_map_print, unlines_append]

theorem body_eq :
    view.body = view.groups.flatMap Group.texts ++ [footerRule, view.counts] ++
      [view.outcome, footerRule] := by
  unfold View.body View.footer
  rw [List.append_assoc]
  rfl

/-- No line feed stands in the outcome or in the rule below it. -/
theorem splitOn_outcome :
    Text.splitOn Text.lineFeed (unlines [view.outcome, footerRule]) =
      [view.outcome, footerRule, []] := by
  unfold View.outcome
  cases view.successful <;> decide +kernel

variable {width}

/-- **The outcome of a run.**  Where the terminal is wide enough for it and for the rule below it,
the outcome is the line in front of the last one. -/
theorem lineBeforeLast?_print (outcomeFits : wrap width view.outcome = [view.outcome])
    (ruleFits : wrap width footerRule = [footerRule]) :
    lineBeforeLast? (view.print width) = some view.outcome := by
  have footerLast : view.body.flatMap (wrap width) =
      (view.groups.flatMap Group.texts ++ [footerRule, view.counts]).flatMap (wrap width) ++
        [view.outcome, footerRule] := by
    rw [body_eq, List.flatMap_append, List.flatMap_cons, List.flatMap_singleton, outcomeFits,
      ruleFits]
    rfl
  obtain ⟨before, isSplit⟩ := exists_splitOn_unlines (view.headerLines width ++
    (view.groups.flatMap Group.texts ++ [footerRule, view.counts]).flatMap (wrap width))
    (unlines [view.outcome, footerRule])
  rw [print_eq_unlines, footerLast, ← List.append_assoc, unlines_append]
  unfold lineBeforeLast? linesOf
  rw [isSplit, splitOn_outcome]
  simp

end Footer

end Summary

end Findings
