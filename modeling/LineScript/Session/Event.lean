import LineScript.Script.Problem
import LineScript.Script.Window
import LineScript.Session.Action

/-! # Events

What happens in a session, in order: the notices that its host gets, the lines that developers may
log, the activations that begin and end, the statements that are executed in them, and the script
files that are looked for.
-/

namespace LineScript

inductive DebugLine where
  | banner
  | trace (text : Text)
  | defined (definition : Definition) (name value : Text)
  | budgetSet (ceiling : Nat)
  | freed (name : Text) (size : Int)
  | diagnostic (d : Diagnostic)
  deriving DecidableEq, Repr

def DebugLine.text : DebugLine → Text
  | .banner => "--- Running main script ---"
  | .trace text => "> EXECUTING: " ++ text
  | .defined definition name value =>
    s!"{definition.label} '" ++ name ++ "' defined with value '" ++ value ++ "'."
  | .budgetSet ceiling => s!"Memory budget set to {ceiling} bytes."
  | .freed name size => "Variable '" ++ name ++ s!"' released ({size} bytes)."
  | .diagnostic d => d.format false

/-- A window that was opened: the interpreter that opened it, and the directory its button works in.
-/
structure OpenWindow where
  window : Window
  owner : Nat
  base : Path
  deriving DecidableEq, Repr

inductive Notice where
  | output (text : Text)
  | debug (line : DebugLine)
  | clearOutput
  | clearDebug
  | opened (window : OpenWindow)
  | updated (text : Text)
  deriving DecidableEq, Repr

/-- The parts of the program that log. -/
inductive Channel where
  | outline
  | execution
  | memory
  | host
  deriving DecidableEq, Repr

def Channel.name : Channel → String
  | .outline => "jlang.parser"
  | .execution => "jlang.runtime"
  | .memory => "jlang.runtime.memory"
  | .host => "jlang.runtime.host"

inductive Event where
  | told (notice : Notice)
  | logged (channel : Channel) (text : Text)
  | entered (interpreter : Nat) (frame : Frame)
  | performed (interpreter : Nat) (frame : Frame) (line : Line) (action : Action)
  | left (interpreter : Nat)
  | sought (path : Path)
  deriving DecidableEq, Repr

def Event.notice? : Event → Option Notice
  | .told notice => some notice
  | _ => none

end LineScript
