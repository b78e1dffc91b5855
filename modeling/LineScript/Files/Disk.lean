import LineScript.Fault
import LineScript.Text.LineBreak

/-! # Disks

A disk answers what lies under a path. Reading a script file can fail because the file cannot be
opened or because its bytes are not text in the expected encoding.
-/

namespace LineScript

inductive EntryKind where
  | file
  | directory
  deriving DecidableEq, Repr

structure Disk where
  workingDirectory : Path
  read : Path → Except FileError (List UInt8)
  kind : Path → Except FileError EntryKind
  entries : Path → List (Text × EntryKind)

/-- Every path leads to an empty file. -/
def Disk.blank : Disk where
  workingDirectory := {}
  read := fun _ => .ok []
  kind := fun _ => .ok .file
  entries := fun _ => []

def Path.fault? (path : Path) : Option Fault :=
  match path.encodeError? with
  | some error => some (.unencodable error)
  | none => if path.hasNull then some .embeddedNull else none

theorem Path.fault?_eq_some {path : Path} {fault : Fault} :
    path.fault? = some fault ↔
      (∃ error, path.encodeError? = some error ∧ fault = .unencodable error) ∨
        (path.encodeError? = none ∧ path.hasNull ∧ fault = .embeddedNull) := by
  unfold fault?
  cases path.encodeError? with
  | some error => simp [@eq_comm _ fault]
  | none => simp [@eq_comm _ fault]

inductive Unreadable where
  | file (error : FileError) (path : Path)
  | bytes (error : DecodeError)
  deriving DecidableEq, Repr

def Unreadable.message : Unreadable → String
  | .file error path => error.message path
  | .bytes error => error.message

namespace Disk

/-- The text of bytes, with line feeds as the only newlines. -/
def scriptText (codec : Codec) (bytes : List UInt8) : Except Fault (Except Unreadable Text) :=
  match codec.decode bytes with
  | .error (.unmarked family) => .error (.unmarkedStream family)
  | .error (.malformed error) => .ok (.error (.bytes error))
  | .ok text => .ok (.ok (.ofList (Text.unifyNewlines text.toList)))

/-- Reads a script file with a codec that was asked for by a name. The name is spelled out first,
but that it names nothing shows only when there are bytes. -/
def readScript (disk : Disk) (codec : Except EncodingNameError Codec) (path : Path) :
    Except Fault (Except Unreadable Text) :=
  match codec with
  | .error .null => .error (.encodingName .null)
  | .error (.unencodable error) => .error (.encodingName (.unencodable error))
  | found =>
    match path.fault? with
    | some fault => .error fault
    | none =>
      match disk.read path, found with
      | .error error, _ => .ok (.error (.file error path))
      | .ok _, .error error => .error (.encodingName error)
      | .ok bytes, .ok codec => scriptText codec bytes

def hasEntry (disk : Disk) (path : Path) : Except Fault Bool :=
  if path.fault?.isSome then .ok false
  else
    match disk.kind path with
    | .ok _ => .ok true
    | .error .nameTooLong => .error (.file .nameTooLong path)
    | .error _ => .ok false

def isDirectory (disk : Disk) (path : Path) : Except Fault Bool :=
  if path.fault?.isSome then .ok false
  else
    match disk.kind path with
    | .ok kind => .ok (kind = .directory)
    | .error .nameTooLong => .error (.file .nameTooLong path)
    | .error _ => .ok false

/-- The script files in a directory, by name; none if it is no directory. -/
def scripts (disk : Disk) (ending : Text) (directory : Path) : Except Fault (List Path) := do
  if ← disk.isDirectory directory then
    let names := (disk.entries directory).filterMap fun entry =>
      if entry.2 = .file && Path.suffixOf entry.1 = ending then some entry.1
      else none
    pure <| (names.mergeSort fun a b => decide (a ≤ b)).map fun name =>
      { directory with parts := directory.parts ++ [name] }
  else pure []

end Disk

end LineScript
