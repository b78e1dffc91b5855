import LineScript.Script.Line

/-! # Problems and diagnostics

A problem is what is wrong with a statement, a block or a script file. A diagnostic reports it with
the line it was found on.
-/

namespace LineScript

inductive Severity where
  | error
  | warning
  | info
  deriving DecidableEq, Repr

def Severity.text : Severity → String
  | .error => "error"
  | .warning => "warning"
  | .info => "info"

structure Diagnostic where
  code : String
  message : Text
  severity : Severity := .error
  location : Location := {}
  source : Option Text := none
  hints : List Text := []
  deriving DecidableEq, Repr

namespace Diagnostic

/-- The diagnostic as text, with the line it is about if `showSource` holds. -/
def format (d : Diagnostic) (showSource : Bool) : Text :=
  let head := d.location.text ++ s!": {d.severity.text}[{d.code}]: " ++ d.message
  let source := if showSource then d.source.toList.map fun line : Text => "    | " ++ line else []
  Text.intercalate "\n" (head :: source ++ d.hints.map fun hint : Text => "    = hint: " ++ hint)

end Diagnostic

inductive Problem where
  | missingFunctionName
  | missingFunctionBrace (name : Text)
  | unterminatedFunction (name : Text)
  | missingWindowBrace
  | unterminatedWindow
  | unknownCommand (word : Text)
  | malformedString
  | malformedValue
  | missingByteCount
  | badByteCount
  | malformedExternal
  | malformedCall
  | incompleteLiteral
  | badPrintArgument
  | malformedUpdate
  | malformedFree
  | undefinedVariable (name : Text)
  | unboundArgument (reference : Text)
  | depthExceeded (limit : Int)
  | budgetExceeded (name : Text) (size : Int)
  | unreadableScript (path resolved : Text)
  deriving DecidableEq, Repr

namespace Problem

/-- The first digit tells the area: structure, statements, references, memory, files. -/
def code : Problem → String
  | missingFunctionName => "E101"
  | missingFunctionBrace _ => "E102"
  | unterminatedFunction _ => "E103"
  | missingWindowBrace => "E104"
  | unterminatedWindow => "E105"
  | unknownCommand _ => "E201"
  | malformedString => "E202"
  | malformedValue => "E203"
  | missingByteCount => "E204"
  | badByteCount => "E205"
  | malformedExternal => "E206"
  | malformedCall => "E207"
  | incompleteLiteral => "E208"
  | badPrintArgument => "E209"
  | malformedUpdate => "E210"
  | malformedFree => "E211"
  | undefinedVariable _ => "E301"
  | unboundArgument _ => "E302"
  | depthExceeded _ => "E303"
  | budgetExceeded _ _ => "E401"
  | unreadableScript _ _ => "E501"

def message : Problem → Text
  | missingFunctionName => "expected a function name after 'function'"
  | missingFunctionBrace name => "missing '\x7b' in the definition of function '" ++ name ++ "'"
  | unterminatedFunction name => "expected '\x7d' to close function '" ++ name ++ "'"
  | missingWindowBrace => "expected '\x7b' to open the @NEW WINDOW block"
  | unterminatedWindow => "expected '\x7d' to close the @NEW WINDOW block"
  | unknownCommand word => "unknown command '" ++ word ++ "'"
  | malformedString => "malformed string definition"
  | malformedValue => "malformed @VAL definition"
  | missingByteCount => "MAX_MEM requires a byte count"
  | badByteCount => "memory budget must be a whole number of bytes"
  | malformedExternal => "malformed @EXTERNAL directive"
  | malformedCall => "malformed call statement"
  | incompleteLiteral => "incomplete string literal"
  | badPrintArgument => "unrecognized argument to 'print'"
  | malformedUpdate => "malformed @UPDATE WINDOW directive"
  | malformedFree => "malformed @FREE directive"
  | undefinedVariable name => "variable '@" ++ name ++ "' is not defined"
  | unboundArgument reference =>
    "argument reference '" ++ reference ++ "' is unsupported or unbound"
  | depthExceeded limit => s!"maximum call depth of {limit} exceeded"
  | budgetExceeded name size =>
    "memory budget exceeded while defining '" ++ name ++ s!"' ({size} bytes)"
  | unreadableScript path _ => "could not read external script '" ++ path ++ "'"

def hints : Problem → List Text
  | missingFunctionName => ["usage: function <name> \x7b"]
  | malformedString => ["usage: string <name> = \"<value>\""]
  | malformedValue => ["usage: @VAL <name> = <value>;"]
  | missingByteCount => ["usage: MAX_MEM <bytes>;"]
  | malformedExternal => ["usage: @EXTERNAL RUN \"<filename.jlsh>\""]
  | malformedCall => ["usage: call <name>[<arg1>, <arg2>]"]
  | malformedUpdate => ["usage: @UPDATE WINDOW TEXT = \"<text>\""]
  | malformedFree => ["usage: @FREE <name>"]
  | unboundArgument _ => ["only @ARGUMENTS.STRING is supported"]
  | unreadableScript _ resolved => ["looked for: " ++ resolved]
  | _ => []

def diagnostic (problem : Problem) : Diagnostic :=
  { code := problem.code, message := problem.message, hints := problem.hints }

def on (problem : Problem) (line : Line) : Diagnostic :=
  { problem.diagnostic with location := line.location, source := some line.text }

end Problem

end LineScript
