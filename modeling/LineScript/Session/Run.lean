import LineScript.Session.Exec

/-! # Running scripts

Statements are executed in activations: the statements of a script, the body of a called function,
the statement of a button. Calls and external scripts open activations one level below the one they
are executed in; at the depth limit they are refused.

Every operation that can print takes the printing as an argument `say`, since an application may
react to a printed line. The recursion over nested activations is on `levels`, the number of
activations that can still be opened inside one another. The public operations start it so high that
the depth limit is met first.
-/

namespace LineScript

/-- What a run gives: the statements, functions and windows of the script, and the diagnostics that
were reported from the start of the run to its end. -/
structure RunResult where
  statements : List Line
  functions : Table Routine
  windows : List OpenWindow
  diagnostics : List Diagnostic

def RunResult.success (result : RunResult) : Bool :=
  result.diagnostics.all (·.severity ≠ .error)

namespace Exec

abbrev Runner : Type :=
  Nat → Frame → List Line → Exec Unit

def openWindow (id : Nat) (base : Path) (body : List Text) : Exec OpenWindow := do
  let i ← interpreter id
  let window := Window.ofBody body i.config.defaultWindowTitle
  let w : OpenWindow := { window, owner := id, base }
  log .execution s!"Opening window {Text.quoted w.window.title}"
  tell (.opened w)
  pure w

def addFunction (id : Nat) (routine : Routine) : Exec Unit := do
  let i ← interpreter id
  if i.store.functions.contains routine.name then
    log .outline ("Function " ++ routine.name ++ " redefined at " ++ routine.location.text)
  modifyStore id (·.addFunction routine)

/-- What the structural pass of a run does for a segment; it gives the window if it opens one. -/
def takeSegment (id : Nat) (base : Path) (segment : Segment) : Exec (Option OpenWindow) :=
  match segment with
  | .statement _ => pure none
  | .function header name body _ => do
    addFunction id { name, body, location := header.location }
    pure none
  | .window _ body _ => do
    let w ← openWindow id base (body.map (·.text))
    pure (some w)
  | .inlineWindow _ body => do
    let w ← openWindow id base body
    pure (some w)
  | .rejected header problem => do
    report id (problem.on header)
    pure none

def takeSegments (id : Nat) (base : Path) : List Segment → Exec (List OpenWindow)
  | [] => pure []
  | segment :: rest => do
    let opened ← takeSegment id base segment
    let windows ← takeSegments id base rest
    pure (opened.toList ++ windows)

/-- A script whose segments were taken and whose statements are still to be executed. The number
of diagnostics that were reported before it is kept for its result. -/
structure Prepared where
  frame : Frame
  statements : List Line
  functions : Table Routine
  windows : List OpenWindow
  first : Nat

/-- Takes the segments of a script and begins its run. A run inside another one of the same
interpreter is one level below what is executing. -/
def prepare (id : Nat) (source : Text) (base : Path) (file : Option Text) :
    Exec Prepared := do
  let i ← interpreter id
  let segments := Segment.ofLines (Line.scan source file)
  let windows ← takeSegments id base segments
  let statements := segments.filterMap Segment.statement?
  let functions := (segments.filterMap Segment.function?).foldl
    (fun table (routine : Routine) => table.put routine.name routine) {}
  log .execution
    (s!"Parsed {statements.length} statement(s), {functions.size} function(s), " ++
      s!"{windows.length} window(s)")
  debug .banner
  modify (·.beginRun id)
  pure
    { frame := { base, depth := if i.activeRuns = 0 then 0 else i.depth + 1 }
      statements, functions, windows
      first := i.report.diagnostics.size }

def Prepared.result (script : Prepared) (i : Interpreter) : RunResult :=
  { statements := script.statements
    functions := script.functions
    windows := script.windows
    diagnostics := i.report.diagnostics.toList.drop script.first }

def runWith (runner : Runner) (id : Nat) (source : Text) (base : Path) (file : Option Text) :
    Exec RunResult := do
  let script ← prepare id source base file
  ensuring (runner id script.frame script.statements) (·.endRun id)
  let i ← interpreter id
  pure (script.result i)

/-- An activation that a statement opens: the lines to execute, for which interpreter and in which
frame, and the path of the external script if they come from one. -/
structure Opening where
  interpreter : Nat
  frame : Frame
  lines : List Line
  script : Option Text := none

def openCall (id : Nat) (name : Text) (arguments : List Text) (frame : Frame) :
    Exec Opening := do
  let i ← interpreter id
  if i.store.functions.contains name then pure ()
  else log .execution ("Call to undefined function " ++ name ++ " ignored")
  pure { interpreter := id, frame := frame.enter name arguments, lines := i.store.body name }

/-- Reads an external script and prepares it for the interpreter that is executing. Nothing happens
without a host. -/
def openScript (disk : Disk) (say : Text → Exec Unit) (path : Text) (base : Path) :
    Exec (Option Opening) := do
  let s ← get
  if s.host.isSome then
    let id := s.activeInterpreter
    let resolved := base.join (.ofText path)
    record (.sought resolved)
    let text ← ofExcept (disk.readScript (s.interpreter id).config.codec resolved)
    match text with
    | .error reason =>
      log .host ("External script " ++ resolved.text ++ s!" unreadable: {reason.message}")
      say ("Error: could not read file " ++ path ++ ".")
      say ("Check that the file exists at: " ++ resolved.text)
      report id (Problem.unreadableScript path resolved.text).diagnostic
      pure none
    | .ok source =>
      say ("--- Running external script: " ++ path ++ " ---")
      let script ← prepare id source resolved.parent (some path)
      pure (some
        { interpreter := id, frame := script.frame, lines := script.statements
          script := some path })
  else pure none

/-- Executes the lines of an opening. The run of an external script ends with them. -/
def complete (say : Text → Exec Unit) (runner : Runner) (opening : Opening) : Exec Unit :=
  match opening.script with
  | none => runner opening.interpreter opening.frame opening.lines
  | some path => do
    ensuring (runner opening.interpreter opening.frame opening.lines)
      (·.endRun opening.interpreter)
    say ("--- End of " ++ path ++ " ---")

def writing (n : Int) (operation : Exec Unit) : Exec Unit :=
  if Text.isWritable n then operation else fail .unwritableNumber

def announce (say : Text → Exec Unit) (id : Nat) (line : Line) : Action → Exec Unit
  | .print text => say text
  | .clearOutput => tell .clearOutput
  | .clearDebug => tell .clearDebug
  | .update text => tell (.updated text)
  | .define definition name value _ => debug (.defined definition name value)
  | .setBudget ceiling => debug (.budgetSet ceiling)
  | .free name size => writing size (debug (.freed name size))
  | .refuse problem => report id (problem.on line)
  | .overBudget name size budget => do
    log .memory s!"Allocation of {size} bytes rejected ({budget.used}/{budget.ceiling} used)"
    writing size (report id ((Problem.budgetExceeded name size).on line))
  | .fail fault => fail fault
  | .skip | .call _ _ | .external _ => pure ()

/-- Carries out an action after it changed the store, and gives the activation that it opens. -/
def perform (disk : Disk) (say : Text → Exec Unit) (id : Nat) (frame : Frame) (line : Line) :
    Action → Exec (Option Opening)
  | .call name arguments => do
    let opening ← openCall id name arguments frame
    pure (some opening)
  | .external path => openScript disk say path frame.base
  | action => do
    announce say id line action
    pure none

/-- Tells of a line that is about to be executed, if the settings ask for it. -/
def trace (id : Nat) (line : Line) : Exec Unit := do
  let i ← interpreter id
  if i.config.trace then debug (.trace line.text) else pure ()

/-- Executes a line up to the activation that it opens. -/
def step (disk : Disk) (say : Text → Exec Unit) (id : Nat) (frame : Frame) (line : Line) :
    Exec (Option Opening) := do
  trace id line
  let s ← get
  let action := s.actionOf id frame line
  modify (·.act id frame line action)
  perform disk say id frame (Statement.citedLine line) action

def executeLine (disk : Disk) (say : Text → Exec Unit) (runner : Runner) (id : Nat)
    (frame : Frame) (line : Line) : Exec Unit := do
  match ← step disk say id frame line with
  | none => pure ()
  | some opening => complete say runner opening

def activation (disk : Disk) (say : Text → Exec Unit) (runner : Runner) : Runner :=
  fun id frame lines => do
    let previous := (← interpreter id).depth
    modify (·.enter id frame)
    ensuring (each (executeLine disk say runner id frame) lines) (·.leave id previous)

/-- Executes lines in a frame, with at most `levels` activations inside one another. -/
def lines (disk : Disk) (say : Text → Exec Unit) : (levels : Nat) → Runner
  | 0 => fun _ _ _ => pure ()
  | levels + 1 => activation disk say (lines disk say levels)

/-- The levels that an interpreter may need from a depth on. From a statement outside any run, calls
can go down to the limit and one external script can start again from the top. -/
def levelsFrom (i : Interpreter) (depth : Int) : Nat :=
  2 * i.config.depthLimit.toNat + 1 + (-depth).toNat

def run (disk : Disk) (say : Text → Exec Unit) (id : Nat) (source : Text) (base : Path)
    (file : Option Text) : Exec RunResult := do
  let i ← interpreter id
  runWith (lines disk say (levelsFrom i 0)) id source base file

def execute (disk : Disk) (say : Text → Exec Unit) (id : Nat) (text : Text) (base : Path) :
    Exec Unit := do
  let i ← interpreter id
  lines disk say (levelsFrom i 0) id { base } [.ofStatement text]

def call (disk : Disk) (say : Text → Exec Unit) (id : Nat) (name : Text)
    (arguments : List Text) (frame : Frame) : Exec Unit := do
  let i ← interpreter id
  let opening ← openCall id name arguments frame
  complete say (lines disk say (levelsFrom i frame.depth)) opening

end Exec

structure Engine where
  execute : Nat → Text → Path → Exec Unit
  run : Nat → Text → Path → Option Text → Exec RunResult

namespace Engine

open Exec

/-- Presses the button of a window; false if it has none. -/
def pressWindow (engine : Engine) (w : OpenWindow) : Exec Bool :=
  match w.window.button with
  | none => pure false
  | some button => do
    engine.execute w.owner button.statement w.base
    pure true

def press (engine : Engine) (index : Int) : Exec Bool := do
  let s ← get
  match Session.windowAt? ((s.host.map (·.windows)).getD #[]) index with
  | none => fail .windowIndex
  | some w => engine.pressWindow w

def react (engine : Engine) (reaction : Reaction) : Exec Unit := do
  let id := (← get).activeInterpreter
  match reaction with
  | .execute text => engine.execute id text {}
  | .run source file =>
    let _ ← engine.run id source {} file
  | .press window =>
    let _ ← engine.press window
  | .reset => modify (·.reset id)

/-- Prints a line, and carries out the first reaction to it. Each reaction is used once. -/
def say (engine : Engine) (text : Text) : Exec Unit := do
  tell (.output text)
  let s ← get
  match (if s.host.isSome then Session.takeReaction? text s.reactions else none) with
  | none => pure ()
  | some (reaction, rest) =>
    modify fun s => { s with reactions := rest }
    engine.react reaction

/-- Reads a script file and runs it in the host's own interpreter; nothing if it cannot be read. -/
def runFile (engine : Engine) (disk : Disk) (say : Text → Exec Unit)
    (codec : Except EncodingNameError Codec) (path : Path) : Exec (Option RunResult) := do
  record (.sought path)
  let text ← ofExcept (disk.readScript codec path)
  match text with
  | .error reason =>
    log .host ("Cannot read " ++ path.text ++ s!": {reason.message}")
    say s!"Error: could not read the script file. {reason.message}"
    pure none
  | .ok source =>
    let result ← engine.run 0 source path.parent (some path.name)
    pure (some result)

end Engine

namespace Exec

def engine (disk : Disk) (say : Text → Exec Unit) : Engine where
  execute := execute disk say
  run := run disk say

/-- Prints a line, with at most `count` reactions inside one another. -/
def say (disk : Disk) : (count : Nat) → Text → Exec Unit
  | 0 => fun text => tell (.output text)
  | count + 1 => (engine disk (say disk count)).say

end Exec

namespace Session

def perform {α : Type} (s : Session) (disk : Disk) (operation : (Text → Exec Unit) → Exec α) :
    Except Fault α × Session :=
  operation (Exec.say disk s.reactions.length) s

def run (s : Session) (disk : Disk) (id : Nat) (source : Text) (base : Path)
    (file : Option Text) : Except Fault RunResult × Session :=
  s.perform disk fun say => Exec.run disk say id source base file

def execute (s : Session) (disk : Disk) (id : Nat) (text : Text) (base : Path) :
    Except Fault Unit × Session :=
  s.perform disk fun say => Exec.execute disk say id text base

def call (s : Session) (disk : Disk) (id : Nat) (name : Text) (arguments : List Text)
    (frame : Frame) : Except Fault Unit × Session :=
  s.perform disk fun say => Exec.call disk say id name arguments frame

def press (s : Session) (disk : Disk) (index : Int) : Except Fault Bool × Session :=
  s.perform disk fun say => (Exec.engine disk say).press index

/-- Presses the button of a window that was opened at some time. -/
def pressWindow (s : Session) (disk : Disk) (w : OpenWindow) : Except Fault Bool × Session :=
  s.perform disk fun say => (Exec.engine disk say).pressWindow w

def runFile (s : Session) (disk : Disk) (codec : Except EncodingNameError Codec) (path : Path) :
    Except Fault (Option RunResult) × Session :=
  s.perform disk fun say => (Exec.engine disk say).runFile disk say codec path

def dropHost (s : Session) : Session :=
  { s with host := none }

end Session

end LineScript
