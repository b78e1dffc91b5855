import LineScript.Config.Setting

/-! # Loading a configuration

A configuration is made of three layers: the defaults, a settings file, and variables of the
environment. A later layer wins. The file is named by the caller, else by a variable, else it is the
one in the working directory, if there is one. How the bytes of a settings file are read is left to
a reader.
-/

namespace LineScript

/-- Why a settings file holds no value: it is malformed, or reading it broke off. -/
inductive DocumentError where
  | malformed
  | broken (fault : Fault)

abbrev DocumentReader := List UInt8 → Except DocumentError Value

abbrev Environment := Table Text

namespace Config

/-- The settings file that is looked for in the working directory. -/
def fileName : String := "jlang.yaml"

def fileVariable : String := "JLANG_CONFIG"

def readDocument (reader : DocumentReader) (disk : Disk) (path : Path) : Except LoadError Value :=
  match path.fault? with
  | some fault => .error (.broken fault)
  | none =>
    match disk.read path with
    | .error error => .error (.refused (.unreadable path error))
    | .ok bytes =>
      match reader bytes with
      | .ok value => .ok value
      | .error .malformed => .error (.refused (.malformed path))
      | .error (.broken fault) => .error (.broken fault)

/-- Whether a schema version is one that this program reads. -/
def acceptsVersion : Value → Bool
  | .str s => (Text.toList "1.").isPrefixOf s.toList
  | _ => false

def isVersion (entry : Value × Value) : Bool :=
  Setting.name? entry.1 = some "schema_version"

def settingsOf (path : Path) (entries : List (Value × Value)) :
    Except ConfigError (Table Value) := do
  let version := ((entries.find? isVersion).map (·.2)).getD (.str "1.0")
  let settings := entries.filter (!isVersion ·)
  if acceptsVersion version then
    let _ ← Setting.checkAll path.text settings
    pure (settings.foldl (fun table entry => table.put entry.1.plain entry.2) {})
  else throw (.schemaVersion path version)

def settingsIn (reader : DocumentReader) (disk : Disk) (path : Path) :
    Except LoadError (Table Value) := do
  match ← readDocument reader disk path with
  | .null => pure {}
  | .map entries => (settingsOf path entries).mapError .ofRefusal
  | _ => .error (.refused (.notMapping path))

/-- The settings file to read if the caller names none. -/
def defaultFile? (disk : Disk) (environment : Environment) : Except Fault (Option Path) := do
  match (environment.get? fileVariable).filter fun name : Text => name ≠ "" with
  | none =>
    let path := disk.workingDirectory.join (.ofText fileName)
    pure (if ← disk.hasEntry path then some path else none)
  | some name => pure (some (.ofText name))

inductive VariableKind where
  | truth
  | number
  deriving DecidableEq, Repr

/-- The variables that set fields, in the order in which they are read. -/
def settingVariables : List (String × String × VariableKind) :=
  [("JLANG_TRACE", "trace", .truth), ("JLANG_MAX_CALL_DEPTH", "max_call_depth", .number),
   ("JLANG_VALUE_OVERHEAD", "value_overhead", .number)]

def lowerAscii (cs : List CodePoint) : List CodePoint :=
  cs.map CodePoint.toLower

def variableValue (name : String) (raw : Text) : VariableKind → Except ConfigError Value
  | .truth =>
    let word := Text.ofList (lowerAscii (Text.trim raw.toList))
    if (["1", "true", "yes", "on"] : List Text).contains word then .ok (.bool true)
    else if (["0", "false", "no", "off"] : List Text).contains word then .ok (.bool false)
    else .error (.variableNotBoolean name raw)
  | .number =>
    match raw.string?.map Text.integer? with
    | some (.ok n) => .ok (.int n)
    | _ => .error (.variableNotInteger name raw)

/-- Puts the settings of the environment on top of others. -/
def layered (environment : Environment) (settings : Table Value) :
    List (String × String × VariableKind) → Except ConfigError (Table Value)
  | [] => .ok settings
  | (name, key, kind) :: rest =>
    match environment.get? name with
    | none => layered environment settings rest
    | some raw => do
      let value ← variableValue name raw kind
      layered environment (settings.put key value) rest

def fileSettings (reader : DocumentReader) (disk : Disk) :
    Option Path → Except LoadError (Table Value)
  | some path => settingsIn reader disk path
  | none => .ok {}

def load (reader : DocumentReader) (disk : Disk) (environment : Environment) (path : Option Path) :
    Except LoadError Config := do
  let path ←
    match path with
    | some path => pure (some path)
    | none => (defaultFile? disk environment).mapError .broken
  let settings ← fileSettings reader disk path
  let settings ← (layered environment settings settingVariables).mapError .ofRefusal
  let checked ← (Setting.checkTable "environment" settings).mapError .ofRefusal
  pure (({} : Config).applyAll checked)

end Config

end LineScript
