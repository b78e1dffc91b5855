import LineScript.Config.Basic
import LineScript.Files.Disk
import LineScript.Memory.Store
import LineScript.Script.QuoteStyle
import LineScript.Script.Statement
import LineScript.Script.Window
import LineScript.Session.Frame
import LineScript.Text.Numeral

/-! # What a statement does

A statement does one thing: it prints a line, changes one variable or the budget, clears a channel,
updates a window, opens a nested activation, or is refused. `Action.of` decides which, from the
statement, its frame, the store and the settings; carrying the action out is left to the session.
-/

namespace LineScript

inductive Definition where
  | string
  | value
  deriving DecidableEq, Repr

def Definition.label : Definition → String
  | .string => "String variable"
  | .value => "Variable"

inductive Action where
  | skip
  | print (text : Text)
  | clearOutput
  | clearDebug
  | update (text : Text)
  | define (definition : Definition) (name value : Text) (size : Int)
  | setBudget (ceiling : Nat)
  | free (name : Text) (size : Int)
  | call (name : Text) (arguments : List Text)
  | external (path : Text)
  | refuse (problem : Problem)
  | overBudget (name : Text) (size : Int) (budget : Budget)
  | fail (fault : Fault)
  deriving DecidableEq, Repr

namespace Action

def stringDefinition? (cs : List CodePoint) : Option (List CodePoint × List CodePoint) := do
  let rest ← Text.after? (Text.toList "string") cs
  let rest ← Text.afterBlanks? rest
  let (name, rest) ← Text.name? rest
  let rest ← Text.afterEquals? rest
  let value ← Text.quoted? rest
  pure (name, value)

/-- A value definition: name and payload. The payload reaches to the end of the line. -/
def valueDefinition? (cs : List CodePoint) : Option (List CodePoint × List CodePoint) := do
  let rest ← Text.after? (Text.toList "@VAL") cs
  let rest ← Text.afterBlanks? rest
  let (name, rest) ← Text.name? rest
  let rest ← Text.afterEquals? rest
  pure (name, rest.takeWhile (· ≠ '\n'))

/-- The inside of the brackets at the start, up to the last closing one on the line. -/
def bracketed? (cs : List CodePoint) : Option (List CodePoint) := do
  let rest ← Text.after? ['['] cs
  Text.beforeLast? ']' (rest.takeWhile (· ≠ '\n'))

def callForm? (cs : List CodePoint) : Option (List CodePoint × Option (List CodePoint)) := do
  let rest ← Text.afterAnyCase? (Text.toList "call") cs
  let rest ← Text.afterBlanks? rest
  let (name, rest) ← Text.name? rest
  pure (name, bracketed? rest)

/-- The arguments between the brackets of a call: cut at commas, trimmed, without double quotes. -/
def callArguments (inside : Option Text) : List Text :=
  match inside with
  | none => []
  | some text =>
    if Text.isBlankText text then []
    else
      (Text.splitAt (.char ',') (straightQuotes text).toList).map fun piece =>
        Text.ofList ((Text.trim piece).filter (· ≠ '"'))

/-- The payload of a value definition: trimmed, without one semicolon at the end, and without the
double quotes around it. A lone double quote counts as quotes around nothing. -/
def payload (cs : List CodePoint) : List CodePoint :=
  let core := Text.dropLastIf ';' (Text.trim cs)
  if core.head? = some (.char '"') && core.getLast? = some (.char '"') then
    (core.drop 1).dropLast
  else core

/-- What a definition does: it is measured first, then charged. -/
def ofDefinition (config : Config) (store : Store) (definition : Definition)
    (name value : List CodePoint) : Action :=
  let name := Text.ofList name
  let value := Text.ofList value
  match valueSize config.valueOverhead config.codec value with
  | .error (.encodingName error) => .fail (.encodingName error)
  | .error (.unencodable error) => .fail (.unencodable error)
  | .ok size =>
    match store.budget with
    | none => .define definition name value size
    | some budget =>
      match budget.allocate? size with
      | none => .overBudget name size budget
      | some _ => .define definition name value size

def ofPrint (frame : Frame) (store : Store) (statement : Statement) : Action :=
  match statement.word? 1 with
  | none => .print ""
  | some argument =>
    match Text.after? (Text.toList "@ARGUMENTS.") argument.toList with
    | some rest =>
      match frame.arguments with
      | first :: _ =>
        if rest = (Text.toList "STRING") then .print first else .refuse (.unboundArgument argument)
      | [] => .refuse (.unboundArgument argument)
    | none =>
      match argument.toList with
      | .char '@' :: name =>
        match store.value? (Text.ofList name) with
        | some value => .print value
        | none => .refuse (.undefinedVariable (Text.ofList name))
      | .char '"' :: _ =>
        match Text.between? '"' '"' statement.text.toList with
        | some text => .print (Text.ofList text)
        | none => .refuse .incompleteLiteral
      | _ => .refuse .badPrintArgument

def definition? (statement : Statement) : Option (Definition × List CodePoint × List CodePoint) :=
  match statement.command with
  | .string =>
    (Text.search stringDefinition? (straightQuotes statement.text).toList).map fun found =>
      (.string, found.1, Text.dropLastIf ';' found.2)
  | .value =>
    (Text.search valueDefinition? (straightQuotes statement.text).toList).map fun found =>
      (.value, found.1, payload found.2)
  | _ => none

def ofDefining (config : Config) (store : Store) (statement : Statement) (problem : Problem) :
    Action :=
  match definition? statement with
  | none => .refuse problem
  | some (definition, name, value) => ofDefinition config store definition name value

/-- The ASCII digits of the words after the first, all in a row, are the byte count. -/
def ofMaxMemory (statement : Statement) : Action :=
  match statement.words.drop 1 with
  | [] => .refuse .missingByteCount
  | words =>
    match (words.flatMap (·.toList)).filter Text.isAsciiDigit with
    | [] => .refuse .badByteCount
    | digits =>
      match Text.numberOf (digits.map fun c => c.toNat - 48) with
      | .ok ceiling => .setBudget ceiling
      | .error _ => .fail (.tooManyDigits digits.length)

def ofFree (store : Store) (statement : Statement) : Action :=
  match statement.words with
  | [_, word] =>
    let name := Text.ofList (word.toList.reverse.dropWhile (· = CodePoint.char ';')).reverse
    match store.value? name with
    | some _ => .free name ((store.size? name).getD 0)
    | none => .refuse .malformedFree
  | _ => .refuse .malformedFree

/-- Refuses to open an activation at the depth limit. -/
def nested (config : Config) (frame : Frame) (action : Action) : Action :=
  if config.depthLimit ≤ frame.depth then .refuse (.depthExceeded config.depthLimit)
  else action

/-- The word that names the script in a directive to run one. -/
def externalWord? (statement : Statement) : Option Text :=
  match statement.words with
  | [_, verb, word] => if verb = "RUN" then some word else none
  | _ => none

def ofExternal (config : Config) (frame : Frame) (statement : Statement) : Action :=
  match externalWord? statement with
  | none => .refuse .malformedExternal
  | some word =>
    nested config frame (.external (.ofList (word.toList.filter (· ≠ CodePoint.char '"'))))

def ofCall (config : Config) (frame : Frame) (statement : Statement) : Action :=
  match Text.search callForm? statement.text.toList with
  | none => .refuse .malformedCall
  | some (name, inside) =>
    nested config frame
      (.call (Text.ofList name) (callArguments (inside.map Text.ofList)))

def ofUpdate (statement : Statement) : Action :=
  if statement.word? 1 = some ("WINDOW" : Text) then
    match Window.updateText? statement.text with
    | some text => .update text
    | none => .refuse .malformedUpdate
  else .refuse .malformedUpdate

/-- A directive that clears a channel if its second word says so. -/
def ofClear (statement : Statement) (action : Action) : Action :=
  if statement.word? 1 = some ("REMOVE" : Text) then action else .skip

def ofCommand (config : Config) (frame : Frame) (store : Store) (statement : Statement) :
    Command → Action
  | .print => ofPrint frame store statement
  | .string => ofDefining config store statement .malformedString
  | .value => ofDefining config store statement .malformedValue
  | .maxMemory => ofMaxMemory statement
  | .free => ofFree store statement
  | .remark => .skip
  | .output => ofClear statement .clearOutput
  | .debug => ofClear statement .clearDebug
  | .external => ofExternal config frame statement
  | .call => ofCall config frame statement
  | .newWindow => .skip
  | .updateWindow => ofUpdate statement
  | .unknown => .refuse (.unknownCommand statement.commandWord)

def of (config : Config) (frame : Frame) (store : Store) (statement : Statement) : Action :=
  if statement.words = [] then .skip
  else ofCommand config frame store statement statement.command

end Action

/-- The store after an action. Only definitions, budgets and releases change it; the functions that
a script defines come in before its statements. -/
def Store.after (store : Store) : Action → Store
  | .define _ name value size => ((store.allocate? size).getD store).setVariable name value size
  | .setBudget ceiling => store.setBudget ceiling
  | .free name size => (store.removeVariable name).release size
  | _ => store

end LineScript
