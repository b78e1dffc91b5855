import LineScript.CommandLine.Request
import LineScript.Config.File
import LineScript.Script.Check
import LineScript.Session.Stack

/-! # The program

What a command line writes to the output and error streams, and its exit code. A fault ends the
program without an exit code; what was written before it stays. The stack is given by the number of
activations that fit on it.
-/

namespace LineScript.CommandLine

/-- What the program leaves: its streams, the files it looked for in a run, and how it ended. -/
structure Outcome where
  output : Text := ""
  errors : Text := ""
  sought : List Path := []
  result : Except Fault Nat

namespace Outcome

def exit (code : Nat) (output errors : List Text) : Outcome :=
  { output := writtenLines output, errors := writtenLines errors, result := .ok code }

def broken (fault : Fault) : Outcome :=
  { result := .error fault }

def ofStop : Stop → Outcome
  | .help topic => exit 0 (topic.help.map .ofString) []
  | .wrong topic error =>
    exit 2 [] ((topic.usage ++ [s!"{topic.name}: error: {error.message}"]).map .ofString)

def notFound (path : Path) : Outcome :=
  exit 1 [] ["Error: File not found: " ++ path.text]

end Outcome

def logLine (channel : Channel) (text : Text) : Text :=
  channel.name ++ ": " ++ text

def errorLines (verbose debug : Bool) : Event → List Text
  | .logged channel text => if verbose then [logLine channel text] else []
  | .told notice => if debug then notice.consoleDebug else []
  | _ => []

def soughtPath? : Event → Option Path
  | .sought path => some path
  | _ => none

def consoleText (s : Session) : Text :=
  match s.host with
  | some { surface := .console console, .. } => console.output
  | _ => ""

/-- Presses the buttons of windows in order, and says so before each. -/
def pressAll (stack : Nat) (disk : Disk) (s : Session) :
    List OpenWindow → Except Fault Unit × Session
  | [] => (.ok (), s)
  | w :: rest =>
    match w.window.button with
    | none => pressAll stack disk s rest
    | some button =>
      let s := s.tell (.output ("[window] pressing '" ++ button.label ++ "'"))
      match s.pressWindowOn stack disk w with
      | (.error fault, s) => (.error fault, s)
      | (.ok _, s) => pressAll stack disk s rest

/-- Runs a script file on a console, and presses the buttons of its windows if that is asked. -/
def runScript (stack : Nat) (disk : Disk) (config : Config) (path : Path) (pressButtons : Bool)
    (s : Session) : Except Fault Nat × Session :=
  match s.runFileOn stack disk config.codec path with
  | (.error fault, s) => (.error fault, s)
  | (.ok none, s) => (.ok 1, s)
  | (.ok (some _), s) =>
    if pressButtons then
      let (result, s) := pressAll stack disk s ((s.host.map (·.windows.toList)).getD [])
      (result.map fun _ => 0, s)
    else (.ok 0, s)

def consoleSession (config : Config) (debug : Bool) : Session :=
  Session.addInterpreter
    { host := some { surface := .console { debug := if debug then some "" else none } } } config

def run (stack : Nat) (disk : Disk) (environment : Environment) (verbose : Bool)
    (request : RunRequest) : Outcome :=
  let path := Path.ofText request.file
  match disk.hasEntry path with
  | .error fault => .broken fault
  | .ok false => .notFound path
  | .ok true =>
    match Config.load Yaml.readSettings disk environment
        (request.config.map fun (file : String) => .ofText file) with
    | .error (.broken fault) => .broken fault
    | .error (.refused error) => .exit 1 [] ["Error: " ++ error.message]
    | .ok config =>
      let config := if request.noTrace then { config with trace := false } else config
      let (result, s) := runScript stack disk config path request.pressButtons
        (consoleSession config request.debug)
      let events := s.transcript.toList
      { output := consoleText s
        errors := writtenLines (events.flatMap (errorLines verbose request.debug))
        sought := events.filterMap soughtPath?
        result }

/-- The lines of a script file that is read but not run, or why there are none. -/
def scriptLines (disk : Disk) (path : Path) : Except Outcome (List Line) :=
  match disk.hasEntry path with
  | .error fault => .error (.broken fault)
  | .ok false => .error (.notFound path)
  | .ok true =>
    match disk.readScript (.ok Encoding.utf8.codec) path with
    | .error fault => .error (.broken fault)
    | .ok (.error reason) => .error (.exit 1 [] [s!"Error: {reason.message}"])
    | .ok (.ok source) => .ok (Line.scan source (some path.name))

def passLog (verbose : Bool) (lines : List Line) : List Text :=
  if verbose then
    (Segment.redefinitions [] (Segment.ofLines lines)).map fun routine =>
      logLine .outline ("Function " ++ routine.name ++ " redefined at " ++ routine.location.text)
  else []

def check (disk : Disk) (verbose : Bool) (file : Text) (json : Bool) : Outcome :=
  let path := Path.ofText file
  match scriptLines disk path with
  | .error outcome => outcome
  | .ok lines =>
    let outline := Outline.ofLines lines
    let report := outline.check
    let code := if report.hasErrors then 1 else 0
    let log := passLog verbose lines
    if json then .exit code [report.json.render 0] log
    else if report.hasErrors then
      .exit code [s!"Check failed with {report.errorCount} error(s):", report.format true] log
    else
      .exit code
        ["OK: " ++ path.name ++ s!" - {outline.functions.size} function(s), " ++
          s!"{outline.windows.size} window(s), {outline.statements.size} statement(s)"] log

def functions (disk : Disk) (verbose : Bool) (file : Text) : Outcome :=
  match scriptLines disk (.ofText file) with
  | .error outcome => outcome
  | .ok lines =>
    let found := (Outline.ofLines lines).functions
    .exit 0
      (s!"Functions ({found.size}):" :: found.values.map fun routine =>
        "  " ++ routine.name ++ s!" ({routine.body.length} line(s)) at " ++ routine.location.text)
      (passLog verbose lines)

/-- The files that a request may need before a script asks for others. -/
def Request.paths (working : Path) (environment : Environment) : Request → List Path
  | .run request =>
    let named := request.config.toList.map Text.ofString ++
      (environment.get? Config.fileVariable).toList
    working.join (.ofText Config.fileName) :: (.ofString request.file :: named).map Path.ofText
  | .check file _ | .functions file => [.ofText file]

def program (stack : Nat) (disk : Disk) (environment : Environment) (arguments : List String) :
    Outcome :=
  match Invocation.ofArguments arguments with
  | .error stop => .ofStop stop
  | .ok { verbose, request } =>
    match request with
    | .run request => run stack disk environment verbose request
    | .check file json => check disk verbose file json
    | .functions file => functions disk verbose file

end LineScript.CommandLine
