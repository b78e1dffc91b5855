import LineScript.CommandLine.Piece

/-! # Requests

What a command line asks for. Arguments are taken in order: a request for help ends the reading, and
so does a switch without the value it needs. Arguments that fit nowhere are kept until the rest has
been read.
-/

namespace LineScript.CommandLine

structure RunRequest where
  file : String
  config : Option String := none
  debug : Bool := false
  noTrace : Bool := false
  pressButtons : Bool := false
  deriving DecidableEq, Repr

inductive Request where
  | run (request : RunRequest)
  | check (file : String) (json : Bool)
  | functions (file : String)
  deriving DecidableEq, Repr

/-- A request, with the wish for a log on the error stream. -/
structure Invocation where
  verbose : Bool
  request : Request
  deriving DecidableEq, Repr

/-- Why a command line makes no request: it asks for help, or it is wrong. -/
inductive Stop where
  | help (topic : Topic)
  | wrong (topic : Topic) (error : UsageError)
  deriving DecidableEq, Repr

abbrev Use := Switch × Option String

/-- What one argument with switches gives: the switches in it, and a switch that still needs a
value. -/
structure Cluster where
  uses : List Use := []
  open? : Option Switch := none
  deriving DecidableEq, Repr

namespace Cluster

/-- A switch and the letters after its short name: the value of the switch, or further short names.
-/
def ofLetters (switches : List Switch) (s : Switch) (uses : List Use) :
    List Char → Except UsageError Cluster
  | [] => .ok (if s.takesValue then { uses, open? := some s } else { uses := uses ++ [(s, none)] })
  | c :: cs =>
    let letters := String.ofList (c :: cs)
    if s.takesValue then .ok { uses := uses ++ [(s, some letters)] }
    else
      match Piece.named? switches (String.ofList ['-', c]) with
      | none => .error (.ignoredValue s letters)
      | some next => ofLetters switches next (uses ++ [(s, none)]) cs

def ofSwitch (switches : List Switch) (s : Switch) : Attached → Except UsageError Cluster
  | .nothing => ofLetters switches s [] []
  | .letters cs => ofLetters switches s [] cs
  | .value v => if s.takesValue then .ok { uses := [(s, some v)] } else .error (.ignoredValue s v)

end Cluster

structure Reading where
  file : Option String := none
  uses : List Use := []
  extras : List String := []
  deriving DecidableEq, Repr

namespace Reading

def addUses (reading : Reading) (uses : List Use) : Reading :=
  { reading with uses := reading.uses ++ uses }

def addExtras (reading : Reading) (extras : List String) : Reading :=
  { reading with extras := reading.extras ++ extras }

def asksHelp (uses : List Use) : Bool :=
  uses.any (·.1 = .help)

def has (reading : Reading) (s : Switch) : Bool :=
  reading.uses.any (·.1 = s)

def value? (reading : Reading) (s : Switch) : Option String :=
  ((reading.uses.filter (·.1 = s)).getLast?).bind (·.2)

/-- The words after two dashes: the first is the file if there is none yet. -/
def afterDashes (reading : Reading) (words : List String) : Reading :=
  match reading.file, words with
  | none, file :: rest => { reading with file := some file }.addExtras rest
  | _, words => reading.addExtras ("--" :: words)

def take (topic : Topic) (reading : Reading) : List (String × Piece) → Except Stop Reading
  | [] => .ok reading
  | (_, .dashes) :: rest => .ok (reading.afterDashes (rest.map Prod.fst))
  | (text, .unknown) :: rest => take topic (reading.addExtras [text]) rest
  | (text, .word) :: rest =>
    match reading.file, rest with
    | some _, rest => take topic (reading.addExtras [text]) rest
    | none, (_, .dashes) :: words =>
      .ok ({ reading with file := some text }.addExtras (words.map Prod.fst))
    | none, rest => take topic { reading with file := some text } rest
  | (_, .switch s attached) :: rest =>
    match Cluster.ofSwitch topic.switches s attached with
    | .error e => .error (.wrong topic e)
    | .ok cluster =>
      let reading := reading.addUses cluster.uses
      match cluster.open?, rest with
      | none, rest =>
        if asksHelp cluster.uses then .error (.help topic) else take topic reading rest
      | some s, (text, .word) :: rest =>
        if asksHelp cluster.uses then .error (.help topic)
        else take topic (reading.addUses [(s, some text)]) rest
      | some s, _ => .error (.wrong topic (.missingValue s))

/-- The request that the arguments of a command make, and the arguments that fit nowhere. -/
def request (c : Command) (reading : Reading) : Except Stop (Request × List String) :=
  match reading.file with
  | none => .error (.wrong (.command c) (.missing "file"))
  | some file =>
    let request :=
      match c with
      | .run => Request.run
          { file
            config := reading.value? .config
            debug := reading.has .debug
            noTrace := reading.has .noTrace
            pressButtons := reading.has .pressButtons }
      | .check => .check file (reading.has .json)
      | .functions => .functions file
    .ok (request, reading.extras)

end Reading

namespace Request

def ofArguments (c : Command) (arguments : List String) : Except Stop (Request × List String) := do
  let topic := Topic.command c
  let pieces ← (Piece.ofArguments topic.switches arguments).mapError (Stop.wrong topic)
  let reading ← Reading.take topic {} pieces
  reading.request c

end Request

namespace Invocation

/-- Ends the reading: what fits nowhere is an error. -/
def finish (verbose : Bool) (extras : List String) (word : String) (arguments : List String) :
    Except Stop Invocation :=
  match Command.ofName? word with
  | none => .error (.wrong .program (.invalidCommand word))
  | some c => do
    let (request, more) ← Request.ofArguments c arguments
    match extras ++ more with
    | [] => pure { verbose, request }
    | extras => .error (.wrong .program (.unrecognized extras))

def take (verbose : Bool) (extras : List String) : List (String × Piece) → Except Stop Invocation
  | [] | [(_, .dashes)] => .error (.wrong .program (.missing "action"))
  | (text, .dashes) :: rest => finish verbose extras text (rest.map Prod.fst)
  | (text, .word) :: rest => finish verbose extras text (rest.map Prod.fst)
  | (text, .unknown) :: rest => take verbose (extras ++ [text]) rest
  | (_, .switch s attached) :: rest =>
    match Cluster.ofSwitch (Topic.switches .program) s attached with
    | .error e => .error (.wrong .program e)
    | .ok cluster =>
      if Reading.asksHelp cluster.uses then .error (.help .program)
      else take (verbose || cluster.uses.any (·.1 = .verbose)) extras rest

def ofArguments (arguments : List String) : Except Stop Invocation := do
  let pieces ←
    (Piece.ofArguments (Topic.switches .program) arguments).mapError (Stop.wrong .program)
  take false [] pieces

end Invocation

end LineScript.CommandLine
