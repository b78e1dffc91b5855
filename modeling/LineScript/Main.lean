import LineScript.CommandLine.Program
import LineScript.Files.Snapshot

/-! # The command-line program

Files are looked at before the program runs. If a script asks for further ones, they are looked at
as well and the program starts again, until it has met every file that it asks for.
-/

namespace LineScript.CommandLine

def stackSize : Nat := 215

def fileErrorOf (error : IO.Error) : FileError :=
  match error with
  | .inappropriateType _ code _ => if code = 20 then .notDirectory else .isDirectory
  | .invalidArgument _ code _ => if code = 36 then .nameTooLong else .notFound
  | _ => .notFound

def lookAt (path : Path) : IO (Except FileError (List UInt8)) := do
  if path.fault?.isSome then return .error .notFound
  try
    let bytes ← IO.FS.readBinFile path.text.display
    return .ok bytes.toList
  catch error => return .error (fileErrorOf error)

def lookAtAll (snapshot : Snapshot) (paths : List Path) : IO Snapshot :=
  paths.foldlM (fun snapshot path => return snapshot.put path (← lookAt path)) snapshot

def readEnvironment : IO Environment :=
  (Config.fileVariable :: Config.settingVariables.map (·.1)).foldlM
    (fun (table : Environment) name => do
      match ← IO.getEnv name with
      | some value => return table.put name value
      | none => return table) {}

/-- Runs the program, looking at further files until it asks for no more of them. -/
partial def settle (working : Path) (environment : Environment) (arguments : List String)
    (snapshot : Snapshot) : IO Outcome := do
  let outcome := program stackSize (snapshot.disk working) environment arguments
  match outcome.sought.filter (!snapshot.contains ·) with
  | [] => return outcome
  | paths => settle working environment arguments (← lookAtAll snapshot paths)

def namedPaths (working : Path) (environment : Environment) (arguments : List String) : List Path :=
  match Invocation.ofArguments arguments with
  | .ok invocation => invocation.request.paths working environment
  | .error _ => []

end LineScript.CommandLine

open LineScript LineScript.CommandLine in
def main (arguments : List String) : IO UInt32 := do
  let working := Path.ofText (← IO.currentDir).toString
  let environment ← readEnvironment
  let snapshot ← lookAtAll {} (namedPaths working environment arguments)
  let outcome ← settle working environment arguments snapshot
  IO.print outcome.output.display
  IO.eprint outcome.errors.display
  match outcome.result with
  | .ok code => return code.toUInt32
  | .error fault =>
    IO.eprintln fault.message
    return 1
