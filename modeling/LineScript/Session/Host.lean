import LineScript.Session.Event

/-! # Hosts

A host shows what scripts print and the windows they open. One kind keeps lines in memory, the other
writes them to streams, which cannot be cleared; it says so instead.
-/

namespace LineScript

structure Buffer where
  output : Array Text := #[]
  debug : Array Text := #[]
  outputClears : Nat := 0
  debugClears : Nat := 0
  deriving DecidableEq, Repr

/-- Text written to streams. A console may have no stream for the debug channel. -/
structure Console where
  output : Text := ""
  debug : Option Text := none
  deriving DecidableEq, Repr

inductive Surface where
  | buffer (buffer : Buffer)
  | console (console : Console)
  deriving DecidableEq, Repr

/-- A host: what it shows, its windows in the order in which they were opened, and the interpreters
that are executing for it, the innermost first. -/
structure Host where
  surface : Surface
  windows : Array OpenWindow := #[]
  executing : List Nat := []

namespace OpenWindow

def extend (w : OpenWindow) (text : Text) : OpenWindow :=
  { w with window := { w.window with content := w.window.content ++ "\n" ++ text } }

end OpenWindow

namespace Notice

def debugLines : Notice → List Text
  | debug line => [line.text]
  | opened w => ["New window requested: '" ++ w.window.title ++ "'"]
  | _ => []

/-- The lines that a console writes to its output stream. Updates show only if there is a window. -/
def consoleOutput (hasWindow : Bool) : Notice → List Text
  | output text => [text]
  | clearOutput => ["--- output cleared ---"]
  | opened w =>
    ("[window] " ++ w.window.title) ::
      ((if w.window.content = "" then [] else ["[window] " ++ w.window.content]) ++
        (w.window.button.toList.map fun button : Button => "[window] button: " ++ button.label))
  | updated text => if hasWindow then ["[window] " ++ text] else []
  | _ => []

def consoleDebug : Notice → List Text
  | clearDebug => ["--- debug log cleared ---"]
  | notice => notice.debugLines

end Notice

namespace Buffer

def receive (buffer : Buffer) : Notice → Buffer
  | .output text => { buffer with output := buffer.output.push text }
  | .clearOutput => { buffer with output := #[], outputClears := buffer.outputClears + 1 }
  | .clearDebug => { buffer with debug := #[], debugClears := buffer.debugClears + 1 }
  | notice => { buffer with debug := buffer.debug ++ notice.debugLines }

end Buffer

def writtenLines (lines : List Text) : Text :=
  lines.foldl (fun text line => text ++ line ++ "\n") ""

namespace Console

def receive (console : Console) (hasWindow : Bool) (notice : Notice) : Console :=
  { output := console.output ++ writtenLines (notice.consoleOutput hasWindow)
    debug := console.debug.map (· ++ writtenLines notice.consoleDebug) }

end Console

namespace Host

/-- The windows after a notice: one more, or the newest one with a longer content. -/
def windowsAfter (windows : Array OpenWindow) : Notice → Array OpenWindow
  | .opened w => windows.push w
  | .updated text => windows.modify (windows.size - 1) (·.extend text)
  | _ => windows

def receive (host : Host) (notice : Notice) : Host :=
  { host with
    windows := windowsAfter host.windows notice
    surface :=
      match host.surface with
      | .buffer buffer => .buffer (buffer.receive notice)
      | .console console => .console (console.receive (!host.windows.isEmpty) notice) }

def currentWindow? (host : Host) : Option OpenWindow :=
  host.windows.back?

end Host

end LineScript
