import LineScript.Script.Report
import LineScript.Session.Host

/-! # Sessions

A session is a host, the interpreters that work for it, and everything that happened so far. The
host may be missing; then nobody is told anything and external scripts are not run.
-/

namespace LineScript

/-- An interpreter: its settings, its store and its report, the depth at which it is executing, and
the number of its runs that are not finished. -/
structure Interpreter where
  config : Config := {}
  store : Store := {}
  report : Report := {}
  depth : Int := 0
  activeRuns : Nat := 0

/-- What an application does when a certain line is printed. It acts on the interpreter that is
executing, or presses the button of a window. -/
inductive Reaction where
  | execute (text : Text)
  | run (source : Text) (file : Option Text)
  | press (window : Int)
  | reset
  deriving DecidableEq, Repr

structure Session where
  host : Option Host := none
  interpreters : Array Interpreter := #[]
  transcript : Array Event := #[]
  reactions : List (Text × Reaction) := []

namespace Session

/-- The interpreter of a number, or a new one if there is none of that number. -/
def interpreter (s : Session) (id : Nat) : Interpreter :=
  s.interpreters[id]?.getD {}

def modifyInterpreter (s : Session) (id : Nat) (change : Interpreter → Interpreter) : Session :=
  { s with interpreters := s.interpreters.modify id change }

/-- Adds an interpreter; its number is the number of those before it. -/
def addInterpreter (s : Session) (config : Config) : Session :=
  { s with interpreters := s.interpreters.push { config } }

def record (s : Session) (event : Event) : Session :=
  { s with transcript := s.transcript.push event }

def tell (s : Session) (notice : Notice) : Session :=
  match s.host with
  | none => s
  | some host => { s.record (.told notice) with host := some (host.receive notice) }

/-- The interpreter that is executing, or else the host's own, which is the first. -/
def activeInterpreter (s : Session) : Nat :=
  match s.host with
  | none => 0
  | some host => host.executing.headD 0

def pushExecuting (s : Session) (id : Nat) : Session :=
  { s with host := s.host.map fun host => { host with executing := id :: host.executing } }

def popExecuting (s : Session) (id : Nat) : Session :=
  { s with
    host := s.host.map fun host =>
      match host.executing with
      | top :: rest => if top = id then { host with executing := rest } else host
      | [] => host }

/-- The session when an interpreter begins to execute in a frame: it is at the depth of the frame
from now on, and the host knows that it is executing. -/
def enter (s : Session) (id : Nat) (frame : Frame) : Session :=
  ((s.modifyInterpreter id fun i => { i with depth := frame.depth }).pushExecuting id).record
    (.entered id frame)

/-- The session when an execution is over, with the interpreter back at an earlier depth. -/
def leave (s : Session) (id : Nat) (depth : Int) : Session :=
  ((s.modifyInterpreter id fun i => { i with depth }).popExecuting id).record (.left id)

def beginRun (s : Session) (id : Nat) : Session :=
  s.modifyInterpreter id fun i => { i with activeRuns := i.activeRuns + 1 }

def endRun (s : Session) (id : Nat) : Session :=
  s.modifyInterpreter id fun i => { i with activeRuns := i.activeRuns - 1 }

def actionOf (s : Session) (id : Nat) (frame : Frame) (line : Line) : Action :=
  .of (s.interpreter id).config frame (s.interpreter id).store (.ofLine line)

def act (s : Session) (id : Nat) (frame : Frame) (line : Line) (action : Action) : Session :=
  (s.record (.performed id frame line action)).modifyInterpreter id fun i =>
    { i with store := i.store.after action }

def reset (s : Session) (id : Nat) : Session :=
  s.modifyInterpreter id fun i => { i with store := {}, report := {} }

def takeReaction? (text : Text) : List (Text × Reaction) →
    Option (Reaction × List (Text × Reaction))
  | [] => none
  | entry :: rest =>
    if entry.1 = text then some (entry.2, rest)
    else (takeReaction? text rest).map fun found => (found.1, entry :: found.2)

/-- The index of a window: a negative one counts from the end. -/
def windowAt? (windows : Array OpenWindow) (index : Int) : Option OpenWindow :=
  if 0 ≤ index then windows[index.toNat]?
  else if 0 ≤ index + windows.size then windows[(index + windows.size).toNat]?
  else none

/-! ## Looking up an interpreter -/

/-- Sessions that agree in a view of all their interpreters agree in it at every number. -/
theorem view_interpreter_congr {α : Type} (view : Interpreter → α) {s t : Session}
    (h : t.interpreters.map view = s.interpreters.map view) (id : Nat) :
    view (t.interpreter id) = view (s.interpreter id) := by
  have hread : ∀ u : Session,
      view (u.interpreter id) = ((u.interpreters.map view)[id]?).getD (view {}) := by
    intro u
    rw [interpreter, Array.getElem?_map]
    cases u.interpreters[id]? <;> rfl
  rw [hread, hread, h]

theorem interpreter_modifyInterpreter (s : Session) (id other : Nat)
    (change : Interpreter → Interpreter) :
    (s.modifyInterpreter id change).interpreter other =
      if id = other ∧ other < s.interpreters.size then change (s.interpreter other)
      else s.interpreter other := by
  unfold interpreter modifyInterpreter
  simp only [Array.getElem?_modify]
  by_cases hid : id = other
  · by_cases hlt : other < s.interpreters.size
    · simp [hid, hlt]
    · simp [hid, hlt]
  · simp [hid]

theorem interpreter_modifyInterpreter_self {s : Session} {id : Nat}
    (hid : id < s.interpreters.size) (change : Interpreter → Interpreter) :
    (s.modifyInterpreter id change).interpreter id = change (s.interpreter id) := by
  rw [interpreter_modifyInterpreter, if_pos ⟨rfl, hid⟩]

@[simp] theorem size_modifyInterpreter (s : Session) (id : Nat)
    (change : Interpreter → Interpreter) :
    (s.modifyInterpreter id change).interpreters.size = s.interpreters.size :=
  Array.size_modify

/-- A change that a view of interpreters does not see leaves the view of all of them alone. -/
theorem map_modifyInterpreter {α : Type} (s : Session) (id : Nat) {view : Interpreter → α}
    {change : Interpreter → Interpreter} (h : ∀ i, view (change i) = view i) :
    (s.modifyInterpreter id change).interpreters.map view = s.interpreters.map view := by
  apply Array.ext_getElem?
  intro j
  simp only [modifyInterpreter, Array.getElem?_map, Array.getElem?_modify]
  by_cases hj : id = j
  · cases s.interpreters[j]? <;> simp [hj, h]
  · simp [hj]

@[simp] theorem interpreter_record (s : Session) (event : Event) (id : Nat) :
    (s.record event).interpreter id = s.interpreter id := rfl

@[simp] theorem interpreters_tell (s : Session) (notice : Notice) :
    (s.tell notice).interpreters = s.interpreters := by
  unfold tell
  cases s.host <;> rfl

@[simp] theorem interpreter_tell (s : Session) (notice : Notice) (id : Nat) :
    (s.tell notice).interpreter id = s.interpreter id := by
  simp [interpreter]

end Session

end LineScript
