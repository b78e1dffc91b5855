import LineScript.Script.Outline
import LineScript.Script.Statement
import LineScript.Text.Json

/-! # Checking a script

A check reports the problems of the blocks of a script and its unknown commands, without running it.
The commands of function bodies count as well, but only those of the functions that a run would see
last under their names.
-/

namespace LineScript

namespace Outline

/-- The lines that a check classifies, by their numbers. -/
def commandLines (outline : Outline) : List Line :=
  let lines := outline.statements.toList ++ outline.functions.values.flatMap (·.body)
  lines.mergeSort fun a b => decide (a.location.line.getD 0 ≤ b.location.line.getD 0)

def unknown? (line : Line) : Option Diagnostic :=
  let statement := Statement.ofLine line
  if statement.command = .unknown then
    some ((Problem.unknownCommand statement.commandWord).on line)
  else none

/-- What a check reports: problems of blocks first, then unknown commands. -/
def check (outline : Outline) : Report :=
  .ofList (outline.problems.toList ++ outline.commandLines.filterMap unknown?)

end Outline

namespace Segment

def redefinitions (seen : List Text) : List Segment → List Routine
  | [] => []
  | segment :: rest =>
    match segment.function? with
    | none => redefinitions seen rest
    | some routine =>
      let more := redefinitions (routine.name :: seen) rest
      if seen.contains routine.name then routine :: more else more

end Segment

namespace Diagnostic

def ofOption {α : Type} (f : α → Text.Json) : Option α → Text.Json
  | some a => f a
  | none => .null

def json (d : Diagnostic) : Text.Json :=
  .object
    [("code", .text d.code), ("message", .text d.message), ("severity", .text d.severity.text),
     ("line", ofOption .number d.location.line), ("file", ofOption .text d.location.file),
     ("source", ofOption .text d.source), ("hints", .list (d.hints.map .text))]

end Diagnostic

def Report.json (report : Report) : Text.Json :=
  .object
    [("diagnostics", .list (report.diagnostics.toList.map (·.json))),
     ("error_count", .number report.errorCount), ("warning_count", .number report.warningCount)]

end LineScript
