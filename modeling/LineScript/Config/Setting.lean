import LineScript.Config.Basic
import LineScript.Config.Value
import LineScript.Files.Disk
import LineScript.Table

/-! # Settings

Settings come as names and values from outside. Each is checked against the fields of a
configuration before it is applied; the first one that does not fit is reported.
-/

namespace LineScript

/-- Why a configuration is refused. `source` says where the settings came from. -/
inductive ConfigError where
  | unknownKey (source : Text) (key : Value)
  | notInteger (source : Text) (key : String) (value : Value)
  | wrongKind (source : Text) (key kind : String) (value : Value)
  | negative (source : Text) (key : String)
  | variableNotBoolean (name : String) (raw : Text)
  | variableNotInteger (name : String) (raw : Text)
  | unreadable (path : Path) (error : FileError)
  | malformed (path : Path)
  | notMapping (path : Path)
  | schemaVersion (path : Path) (version : Value)

namespace ConfigError

def message : ConfigError → Text
  | unknownKey source key => "Unknown configuration key '" ++ key.plain ++ "' in " ++ source
  | notInteger source key value =>
    s!"'{key}' in " ++ source ++ s!" must be an integer, got {value.shown}"
  | wrongKind source key kind value =>
    s!"'{key}' in " ++ source ++ s!" must be {kind}, got {value.shown}"
  | negative source key => s!"'{key}' in " ++ source ++ " must not be negative"
  | variableNotBoolean name raw => s!"{name} must be a boolean, got {Text.quoted raw}"
  | variableNotInteger name raw => s!"{name} must be an integer, got {Text.quoted raw}"
  | unreadable path error =>
    "Cannot read configuration file " ++ path.text ++ s!": {error.message path}"
  | malformed path => "Invalid YAML in " ++ path.text
  | notMapping path =>
    "Invalid configuration format in " ++ path.text ++ ": expected a mapping at root"
  | schemaVersion path version =>
    "Unsupported schema version '" ++ version.plain ++ "' in " ++ path.text ++
      ". Expected version 1.x"

def isWritable : ConfigError → Bool
  | unknownKey _ key => key.isWritable
  | notInteger _ _ value => value.isWritable
  | wrongKind _ _ _ value => value.isWritable
  | schemaVersion _ version => version.isWritable
  | _ => true

end ConfigError

/-- Why no configuration is made: its settings are refused, or reading or reporting them broke off.
-/
inductive LoadError where
  | refused (error : ConfigError)
  | broken (fault : Fault)

namespace LoadError

def message : LoadError → Text
  | refused error => error.message
  | broken fault => fault.message

/-- A refusal breaks off if its message cannot be written out. -/
def ofRefusal (error : ConfigError) : LoadError :=
  if error.isWritable then refused error else broken .unwritableNumber

end LoadError

inductive Setting where
  | valueOverhead (n : Nat)
  | maxCallDepth (n : Nat)
  | trace (b : Bool)
  | encoding (s : Text)
  | defaultWindowTitle (s : Text)
  | scriptExtension (s : Text)
  deriving DecidableEq, Repr

namespace Setting

def apply (config : Config) : Setting → Config
  | valueOverhead n => { config with valueOverhead := n }
  | maxCallDepth n => { config with maxCallDepth := n }
  | trace b => { config with trace := b }
  | encoding s => { config with encoding := s }
  | defaultWindowTitle s => { config with defaultWindowTitle := s }
  | scriptExtension s => { config with scriptExtension := s }

/-- A whole number that is not negative. Truth values are not numbers. -/
def natural (source : Text) (key : String) : Value → Except ConfigError Nat
  | .int (.ofNat n) => .ok n
  | .int (.negSucc _) => .error (.negative source key)
  | value => .error (.notInteger source key value)

def truth (source : Text) (key : String) : Value → Except ConfigError Bool
  | .bool b => .ok b
  | value => .error (.wrongKind source key "bool" value)

def characters (source : Text) (key : String) : Value → Except ConfigError Text
  | .str s => .ok s
  | value => .error (.wrongKind source key "str" value)

def named? (source : Text) (key : String) (value : Value) : Option (Except ConfigError Setting) :=
  match key with
  | "value_overhead" => some ((natural source key value).map valueOverhead)
  | "max_call_depth" => some ((natural source key value).map maxCallDepth)
  | "trace" => some ((truth source key value).map trace)
  | "encoding" => some ((characters source key value).map encoding)
  | "default_window_title" => some ((characters source key value).map defaultWindowTitle)
  | "script_extension" => some ((characters source key value).map scriptExtension)
  | _ => none

def name? : Value → Option String
  | .str s => s.string?
  | _ => none

/-- Checks a setting. Only a text names a field. -/
def check (source : Text) (key value : Value) : Except ConfigError Setting :=
  ((name? key).bind fun name => named? source name value).getD (.error (.unknownKey source key))

def checkAll (source : Text) : List (Value × Value) → Except ConfigError (List Setting)
  | [] => .ok []
  | (key, value) :: rest => do
    let setting ← check source key value
    let settings ← checkAll source rest
    pure (setting :: settings)

def checkTable (source : Text) (table : Table Value) : Except ConfigError (List Setting) :=
  checkAll source (table.entries.map fun entry => (.str entry.1, entry.2))

end Setting

namespace Config

def applyAll (config : Config) (settings : List Setting) : Config :=
  settings.foldl Setting.apply config

def withOverrides (config : Config) (overrides : Table Value) : Except LoadError Config := do
  let checked ← (Setting.checkTable "overrides" overrides).mapError .ofRefusal
  pure (config.applyAll checked)

end Config

end LineScript
