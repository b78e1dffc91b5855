import LineScript.Script.Report
import LineScript.Script.Segment
import LineScript.Table

/-! # Outlines

What the structural pass finds in a script: its statements, functions and windows, and the problems
of headers that open no block.
-/

namespace LineScript

/-- A function: the lines that a call of it executes. -/
structure Routine where
  name : Text
  body : List Line
  location : Location
  deriving Repr

/-- The body of a window block, with its place among the lines of the script. -/
structure WindowBlock where
  body : List Text
  location : Location
  index : Nat
  deriving Repr

structure Outline where
  statements : Array Line := #[]
  functions : Table Routine := {}
  windows : Array WindowBlock := #[]
  problems : Array Diagnostic := #[]

namespace Segment

def statement? : Segment → Option Line
  | statement line => some line
  | _ => none

def function? : Segment → Option Routine
  | function header name body _ => some { name, body, location := header.location }
  | _ => none

def window? : Segment → Option (Line × List Text)
  | window header body _ => some (header, body.map (·.text))
  | inlineWindow header body => some (header, body)
  | _ => none

def diagnostic? : Segment → Option Diagnostic
  | rejected header problem => some (problem.on header)
  | _ => none

end Segment

namespace Outline

def add (outline : Outline) (index : Nat) : Segment → Outline
  | .statement line => { outline with statements := outline.statements.push line }
  | .function header name body _ =>
    { outline with
      functions := outline.functions.put name { name, body, location := header.location } }
  | .window header body _ =>
    { outline with
      windows := outline.windows.push
        { body := body.map (·.text), location := header.location, index } }
  | .inlineWindow header body =>
    { outline with windows := outline.windows.push { body, location := header.location, index } }
  | .rejected header problem =>
    { outline with problems := outline.problems.push (problem.on header) }

def addAll (outline : Outline) (index : Nat) : List Segment → Outline
  | [] => outline
  | segment :: rest => addAll (outline.add index segment) (index + segment.extra + 1) rest

def ofLines (lines : List Line) : Outline :=
  addAll {} 0 (Segment.ofLines lines)

end Outline

end LineScript
