import LineScript.Script.Problem
import LineScript.Text.Search

/-! # Segments of a script

The structural pass cuts the logical lines of a script into consecutive segments: plain statements,
function blocks, window blocks and headers that open no block. A function body ends at the first
line that is a closing brace. A window body counts braces: a line that ends in an opening brace
opens, a line that is a closing brace closes.
-/

namespace LineScript

inductive Segment where
  | statement (line : Line)
  | function (header : Line) (name : Text) (body : List Line) (closing : Line)
  | window (header : Line) (body : List Line) (closing : Line)
  | inlineWindow (header : Line) (body : List Text)
  | rejected (header : Line) (problem : Problem)
  deriving DecidableEq, Repr

namespace Segment

def lines : Segment → List Line
  | statement line => [line]
  | function header _ body closing => header :: body ++ [closing]
  | window header body closing => header :: body ++ [closing]
  | inlineWindow header _ => [header]
  | rejected header _ => [header]

/-- The number of lines after the first one of a segment. -/
def extra : Segment → Nat
  | function _ _ body _ => body.length + 1
  | window _ body _ => body.length + 1
  | _ => 0

/-- The keyword of a function block at the start of a header. A blank, an opening brace or the end
of the line has to follow it. -/
def isFunctionHeader (cs : List CodePoint) : Bool :=
  match Text.after? (Text.toList "function") cs with
  | none => false
  | some [] => true
  | some (c :: _) => Text.isBlank c || c = '{'

def functionName? (cs : List CodePoint) : Option (List CodePoint) := do
  let rest ← Text.after? (Text.toList "function") cs
  let rest ← Text.afterBlanks? rest
  let (name, _) ← Text.name? rest
  pure name

/-- The name of the function that a header declares: it is looked for all over the line. -/
def declaredName? (text : Text) : Option Text :=
  (Text.search functionName? text.toList).map Text.ofList

def isWindowHeader (cs : List CodePoint) : Bool :=
  (Text.after? (Text.toList "@NEW WINDOW") cs).isSome

def isClosing (line : Line) : Bool :=
  line.text = "\x7d"

def opensBlock (text : Text) : Bool :=
  text.toList.getLast? = some (.char '{')

/-- The lines up to the first closing brace, and that line. -/
def functionBody? : List Line → Option (List Line × Line)
  | [] => none
  | line :: rest =>
    if isClosing line then some ([], line)
    else (functionBody? rest).map fun found => (line :: found.1, found.2)

/-- The lines up to the closing brace of a block in which `depth` blocks are open, and that line. -/
def windowBody? (depth : Nat) : List Line → Option (List Line × Line)
  | [] => none
  | line :: rest =>
    if isClosing line then
      match depth with
      | 0 => some ([], line)
      | depth + 1 => (windowBody? depth rest).map fun found => (line :: found.1, found.2)
    else
      (windowBody? (if opensBlock line.text then depth + 1 else depth) rest).map
        fun found => (line :: found.1, found.2)

/-- The inside of a block that is opened and closed on one line. Its braces have to be equal in
number, and the last closing one has to come after the first opening one. -/
def inlineBody? (text : Text) : Option (List Text) :=
  let cs := text.toList
  if cs.count (.char '{') = 0 || cs.count (.char '{') ≠ cs.count (.char '}') then none
  else
    (Text.between? '{' '}' cs).map fun inner =>
      match Text.trim inner with
      | [] => []
      | c :: rest => [Text.ofList (c :: rest)]

def ofFunctionHeader (header : Line) (rest : List Line) : Segment :=
  match declaredName? header.text with
  | none => rejected header .missingFunctionName
  | some name =>
    if !header.text.toList.contains '{' then rejected header (.missingFunctionBrace name)
    else
      match functionBody? rest with
      | none => rejected header (.unterminatedFunction name)
      | some (body, closing) => function header name body closing

def ofWindowHeader (header : Line) (rest : List Line) : Segment :=
  if opensBlock header.text then
    match windowBody? 0 rest with
    | none => rejected header .unterminatedWindow
    | some (body, closing) => window header body closing
  else
    match inlineBody? header.text with
    | none => rejected header .missingWindowBrace
    | some body => inlineWindow header body

def starting (line : Line) (rest : List Line) : Segment :=
  if isFunctionHeader line.text.toList then ofFunctionHeader line rest
  else if isWindowHeader line.text.toList then ofWindowHeader line rest
  else statement line

/-- The segments of the lines after the first `skip` of them. -/
def ofLinesAfter : (skip : Nat) → List Line → List Segment
  | _, [] => []
  | 0, line :: rest =>
    let segment := starting line rest
    segment :: ofLinesAfter segment.extra rest
  | skip + 1, _ :: rest => ofLinesAfter skip rest

def ofLines (lines : List Line) : List Segment :=
  ofLinesAfter 0 lines

end Segment

end LineScript
