import LineScript.Session.Run

/-! # Running scripts on a stack

Activations inside one another take up room on a stack. How much each of them takes is the
platform's; here a stack is given by the number of activations that fit on it. An operation that
needs more breaks off where there is no room left. A run that is not inside another one of the same
interpreter, and a statement that is executed outside any run, are guarded: they report that the
calls went too deep, and return.
-/

namespace LineScript

namespace Exec

def reportExhausted (id : Nat) : Exec Unit := do
  let i ← interpreter id
  log .execution s!"Python stack exhausted below depth {i.depth}"
  report id (Problem.depthExceeded i.config.depthLimit).diagnostic

/-- Carries out an operation of an interpreter, with a report if the stack is exhausted. -/
def guarded (id : Nat) (x : Exec Unit) : Exec Unit :=
  fun s =>
    match x s with
    | (.error .stackExhausted, t) => reportExhausted id t
    | out => out

/-- Guards the lines of a script that no other run of the interpreter is around. They are told from
the body of a function by the frame. -/
def guardedRuns (runner : Runner) : Runner :=
  fun id frame lines => do
    let i ← interpreter id
    if i.activeRuns = 1 ∧ frame.function = none then guarded id (runner id frame lines)
    else runner id frame lines

/-- Executes lines in a frame on a stack with room for a number of activations. What is printed in
an activation is printed with the room that is left above it. -/
def linesOn (disk : Disk) (say : Nat → Text → Exec Unit) : (room : Nat) → Runner
  | 0 => fun _ _ _ => fail .stackExhausted
  | room + 1 => activation disk (say room) (guardedRuns (linesOn disk say room))

def runOn (disk : Disk) (say : Nat → Text → Exec Unit) (room id : Nat) (source : Text)
    (base : Path) (file : Option Text) : Exec RunResult :=
  runWith (guardedRuns (linesOn disk say room)) id source base file

def executeOn (disk : Disk) (say : Nat → Text → Exec Unit) (room id : Nat) (text : Text)
    (base : Path) : Exec Unit := do
  let i ← interpreter id
  let executed := linesOn disk say room id { base } [.ofStatement text]
  if i.activeRuns = 0 then guarded id executed else executed

def callOn (disk : Disk) (say : Nat → Text → Exec Unit) (room id : Nat) (name : Text)
    (arguments : List Text) (frame : Frame) : Exec Unit := do
  let opening ← openCall id name arguments frame
  complete (say room) (linesOn disk say room) opening

def engineOn (disk : Disk) (say : Nat → Text → Exec Unit) (room : Nat) : Engine where
  execute := executeOn disk say room
  run := runOn disk say room

/-- Prints a line with some room left, with at most `count` reactions inside one another. -/
def sayOn (disk : Disk) : (count room : Nat) → Text → Exec Unit
  | 0, _ => fun text => tell (.output text)
  | count + 1, room => (engineOn disk (sayOn disk count) room).say

end Exec

namespace Session

variable (s : Session) (stack : Nat) (disk : Disk)

def performOn {α : Type} (operation : (Nat → Text → Exec Unit) → Exec α) :
    Except Fault α × Session :=
  operation (Exec.sayOn disk s.reactions.length) s

def runOn (id : Nat) (source : Text) (base : Path) (file : Option Text) :
    Except Fault RunResult × Session :=
  s.performOn disk fun say => Exec.runOn disk say stack id source base file

def executeOn (id : Nat) (text : Text) (base : Path) : Except Fault Unit × Session :=
  s.performOn disk fun say => Exec.executeOn disk say stack id text base

def callOn (id : Nat) (name : Text) (arguments : List Text) (frame : Frame) :
    Except Fault Unit × Session :=
  s.performOn disk fun say => Exec.callOn disk say stack id name arguments frame

def pressOn (index : Int) : Except Fault Bool × Session :=
  s.performOn disk fun say => (Exec.engineOn disk say stack).press index

def pressWindowOn (w : OpenWindow) : Except Fault Bool × Session :=
  s.performOn disk fun say => (Exec.engineOn disk say stack).pressWindow w

def runFileOn (codec : Except EncodingNameError Codec) (path : Path) :
    Except Fault (Option RunResult) × Session :=
  s.performOn disk fun say => (Exec.engineOn disk say stack).runFile disk (say stack) codec path

end Session

end LineScript
