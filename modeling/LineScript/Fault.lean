import LineScript.Encoding.Codec
import LineScript.Files.Error
import LineScript.Yaml.Error

/-! # Faults

A fault breaks off an operation, as opposed to the problems that a script is told of.
-/

namespace LineScript

inductive Fault where
  | embeddedNull
  | tooManyDigits (count : Nat)
  | unwritableNumber
  | encodingName (error : EncodingNameError)
  | unencodable (error : EncodeError)
  | undecodable (error : DecodeError)
  | unmarkedStream (family : String)
  | windowIndex
  | file (error : FileError) (path : Path)
  | scalar (error : Yaml.ScalarError)
  | stackExhausted
  deriving DecidableEq, Repr

def Fault.message : Fault → String
  | .embeddedNull => "embedded null byte"
  | .tooManyDigits count => Text.tooLongMessage count
  | .unwritableNumber => Text.unwritableMessage
  | .encodingName error => error.message
  | .unencodable error => error.message
  | .undecodable error => error.message
  | .unmarkedStream family => s!"{family} stream does not start with BOM"
  | .windowIndex => "list index out of range"
  | .file error path => error.message path
  | .scalar error => error.message
  | .stackExhausted => "maximum recursion depth exceeded"

end LineScript
