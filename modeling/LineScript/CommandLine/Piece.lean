import LineScript.CommandLine.Switch
import LineScript.Text.Character
import LineScript.Text.Quoted
import LineScript.Text.Search

/-! # Pieces of a command line

Each argument is a word, a switch or something that looks like a switch and is none. Long names may
be shortened as far as they stay unique. After the argument of two dashes all are words.
-/

namespace LineScript.CommandLine

inductive UsageError where
  | ambiguous (argument : String) (candidates : List String)
  | ignoredValue (s : Switch) (value : String)
  | missingValue (s : Switch)
  | missing (what : String)
  | invalidCommand (word : String)
  | unrecognized (arguments : List String)
  deriving DecidableEq, Repr

def UsageError.message : UsageError → String
  | .ambiguous argument candidates =>
    s!"ambiguous option: {argument} could match " ++ ", ".intercalate candidates
  | .ignoredValue s value => s!"argument {s.title}: ignored explicit argument {Text.quoted value}"
  | .missingValue s => s!"argument {s.title}: expected one argument"
  | .missing what => s!"the following arguments are required: {what}"
  | .invalidCommand word =>
    let choices := ", ".intercalate (Command.all.map fun c => Text.quoted c.name)
    s!"argument action: invalid choice: {Text.quoted word} (choose from {choices})"
  | .unrecognized arguments => "unrecognized arguments: " ++ " ".intercalate arguments

/-- What is written in one argument with a switch: nothing, letters after a short name, or a value
after an equals sign. -/
inductive Attached where
  | nothing
  | letters (cs : List Char)
  | value (s : String)
  deriving DecidableEq, Repr

inductive Piece where
  | word
  | dashes
  | unknown
  | switch (s : Switch) (attached : Attached)
  deriving DecidableEq, Repr

namespace Piece

def namesOf (switches : List Switch) : List (String × Switch) :=
  switches.flatMap fun s => s.names.map fun name => (name, s)

def named? (switches : List Switch) (name : String) : Option Switch :=
  ((namesOf switches).find? (·.1 = name)).map (·.2)

def splitEquals (cs : List Char) : List Char × Option (List Char) :=
  match cs.dropWhile (· ≠ '=') with
  | [] => (cs, none)
  | _ :: rest => (cs.takeWhile (· ≠ '='), some rest)

def attachedValue : Option (List Char) → Attached
  | none => .nothing
  | some cs => .value (String.ofList cs)

/-- Whether a name is a dash and one character. -/
def isShort : List Char → Bool
  | ['-', c] => c ≠ '-'
  | _ => false

/-- What follows a whole name and an equals sign. After a short name the sign may be left out, so it
is no part of the letters. -/
def attachedAfter (name value : List Char) : Attached :=
  if isShort name && value ≠ [] then .letters value else .value (String.ofList value)

/-- A whole name with an equals sign and a value after it. -/
def splitWhole? (switches : List Switch) (cs : List Char) : Option (Switch × Attached) :=
  match splitEquals cs with
  | (_, none) => none
  | (name, some value) =>
    (named? switches (String.ofList name)).map fun s => (s, attachedAfter name value)

/-- Every way to read an argument as a shortened long name, or as a short name with letters after
it. -/
def readings (switches : List Switch) (cs : List Char) : List (String × Piece) :=
  match cs with
  | '-' :: '-' :: _ =>
    let (start, rest) := splitEquals cs
    (namesOf switches).filterMap fun (name, s) =>
      if start.isPrefixOf name.toList then some (name, .switch s (attachedValue rest))
      else none
  | '-' :: c :: rest =>
    (namesOf switches).filterMap fun (name, s) =>
      if name.toList = ['-', c] then some (name, .switch s (.letters rest))
      else if cs.isPrefixOf name.toList then some (name, .switch s .nothing)
      else none
  | _ => []

def isDigit (c : Char) : Bool :=
  (Text.digitValue? c).isSome

def withoutNewline (cs : List Char) : List Char :=
  if cs.getLast? = some '\n' then cs.dropLast else cs

/-- Whether a text is a dash and a number. -/
def isNegativeNumber (cs : List Char) : Bool :=
  match withoutNewline cs with
  | '-' :: rest =>
    match rest.dropWhile isDigit with
    | [] => rest ≠ []
    | '.' :: fraction => fraction ≠ [] && fraction.all isDigit
    | _ => false
  | _ => false

/-- Reads an argument that is neither two dashes nor after them. -/
def ofArgument (switches : List Switch) (argument : String) : Except UsageError Piece :=
  match argument.toList with
  | [] | ['-'] => .ok word
  | '-' :: rest =>
    let cs := '-' :: rest
    match named? switches argument, splitWhole? switches cs with
    | some s, _ => .ok (switch s .nothing)
    | none, some (s, attached) => .ok (switch s attached)
    | none, none =>
      match readings switches cs with
      | [(_, piece)] => .ok piece
      | [] => .ok (if isNegativeNumber cs || cs.contains ' ' then word else unknown)
      | several => .error (.ambiguous argument (several.map (·.1)))
  | _ => .ok word

def ofArguments (switches : List Switch) : List String → Except UsageError (List (String × Piece))
  | [] => .ok []
  | "--" :: rest => .ok (("--", dashes) :: rest.map fun argument => (argument, word))
  | argument :: rest => do
    let piece ← ofArgument switches argument
    let pieces ← ofArguments switches rest
    pure ((argument, piece) :: pieces)

end Piece

end LineScript.CommandLine
